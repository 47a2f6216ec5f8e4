import TestRunner.Recorder.Writers

/-! A session that the ESC key ends: the flag is tested between two rounds of `select`, so the
devices that were ready with the key are still read. -/
namespace TestRunner.Recorder

variable {X : Type} {cfg : Config X} {s s' t : State X}

theorem readings_append {as : List Action} (bs : List Action) (h : run (step cfg) s as = some t) :
    readings cfg s (as ++ bs) = readings cfg s as ++ readings cfg t bs := by
  induction as generalizing s with
  | nil =>
    cases Option.some.inj h
    rfl
  | cons a as ih =>
    obtain ⟨m, stepped, rest⟩ := Option.bind_eq_some_iff.mp h
    simp only [List.cons_append, readings, stepped, ih rest, List.append_assoc]

/-- The devices that are read before `m_stop` is tested again. -/
def RecordPc.left : RecordPc → List InDevice
  | .read todo | .escFlag todo | .escTime todo | .keysym _ todo | .updateKey _ _ todo
  | .store _ todo => todo
  | _ => []

/-- The thread comes to no other round: an ESC is in hand, or `m_stop` is set and will be tested. -/
def Ebbing (s : State X) : Prop :=
  match s.record with
  | .escFlag _ => True
  | .absent | .loop | .read _ | .escTime _ | .keysym _ _ | .updateKey _ _ _ | .store _ _
  | .joinBuffer | .returned => s.mStop = true
  | _ => False

@[simp] theorem left_values :
    (∀ todo, (RecordPc.read todo).left = todo) ∧ (∀ todo, (RecordPc.escFlag todo).left = todo) ∧
    (∀ todo, (RecordPc.escTime todo).left = todo) ∧
    (∀ e todo, (RecordPc.keysym e todo).left = todo) ∧
    (∀ e sym todo, (RecordPc.updateKey e sym todo).left = todo) ∧
    (∀ r todo, (RecordPc.store r todo).left = todo) ∧
    RecordPc.absent.left = [] ∧ RecordPc.clearing.left = [] ∧ RecordPc.stamping.left = [] ∧
    RecordPc.setup.left = [] ∧ RecordPc.loop.left = [] ∧ RecordPc.elapsedNow.left = [] ∧
    (∀ now, (RecordPc.elapsedCheck now).left = []) ∧ RecordPc.select.left = [] ∧
    RecordPc.joinBuffer.left = [] ∧ RecordPc.returned.left = [] := by
  simp only [RecordPc.left, implies_true, and_self]

@[simp] theorem left_resume (todo : List InDevice) : (resume todo).left = todo := by
  cases todo <;> rfl

@[simp] theorem left_exitLoop : cfg.exitLoop.left = [] := by
  unfold Config.exitLoop
  split <;> rfl

@[simp] theorem left_received (now : Int) (d : InDevice) (ev : InputEvent) (rest : List InDevice) :
    (received now d ev rest).left = rest := by
  unfold received
  split <;> rfl

theorem Ebbing.stopped (h : Ebbing s) (flag : ∀ todo, s.record ≠ .escFlag todo) : s.mStop = true := by
  unfold Ebbing at h
  split at h
  · rename_i pc
    exact absurd pc (flag _)
  all_goals first | exact h | exact h.elim

theorem ebbing_routine (routine : s.record.routine = true) (stop : s.mStop = true) : Ebbing s := by
  unfold Ebbing
  cases pc : s.record <;> simp_all [RecordPc.routine]

theorem ebbing_caller {a : CallerAction} (h : Ebbing s) (other : a ≠ .spawn)
    (m : CallerMove cfg s a s') : Ebbing s' ∧ s'.record.left = s.record.left := by
  cases m with
  | spawn | terminate => exact absurd rfl other
  | stopJoin pc joinable ended =>
    exact ⟨h.stopped (by simp [ended]), by simp [ended, State.note]⟩
  | destroyJoin pc ended =>
    exact ⟨h.stopped (by simp [ended]), by simp [ended, State.note]⟩
  | stopFlag | destroyFlag =>
    refine ⟨?_, rfl⟩
    unfold Ebbing at h ⊢
    cases pc : s.record <;> simp_all
  | _ => exact ⟨h, rfl⟩

theorem ebbing_record {a : RecordAction} (h : Ebbing s) (m : RecordMove cfg s a s') :
    Ebbing s' ∧ ((reading s (.record a)).toList.map Reading.device ++ s'.record.left).Sublist
      s.record.left := by
  cases m with
  | readEvent d rest ev pc =>
    refine ⟨ebbing_routine (received_routine ..) (h.stopped (by simp [pc])), ?_⟩
    simp [reading, pc]
  | readNothing d rest pc =>
    refine ⟨ebbing_routine (resume_routine rest) (h.stopped (by simp [pc])), ?_⟩
    simp [reading, pc]
  | escFlag rest pc free => exact ⟨rfl, by simp [reading, pc]⟩
  | escTime rest pc =>
    refine ⟨ebbing_routine (resume_routine rest) (h.stopped (by simp [pc])), ?_⟩
    simp [reading, pc, State.note]
  | push r rest pc | append r rest pc =>
    refine ⟨ebbing_routine (resume_routine rest) (h.stopped (by simp [pc])), ?_⟩
    simp [reading, pc, State.note]
  | keysymSkip e rest pc | keysym e rest x pc | updateSkip e sym rest pc
  | updateKey e sym rest d x pc =>
    exact ⟨h.stopped (by simp [pc]), by simp [reading, pc]⟩
  | keysymReleased | updateReleased => exact ⟨h, by simp [reading]⟩
  | loadStop pc stop =>
    exact ⟨ebbing_routine (exitLoop_routine cfg) stop, by simp [reading]⟩
  | joinBuffer pc ended => exact ⟨h.stopped (by simp [pc]), by simp [reading]⟩
  | _ => simp_all [Ebbing]

theorem ebbing_step {a : Action} (h : Ebbing s) (other : a ≠ .caller .spawn) (move : Move cfg s a s') :
    Ebbing s' ∧ ((reading s a).toList.map Reading.device ++ s'.record.left).Sublist
      s.record.left := by
  cases move with
  | caller m =>
    obtain ⟨next, same⟩ := ebbing_caller h (fun same => other (same ▸ rfl)) m
    exact ⟨next, by simp [reading, same]⟩
  | record m => exact ebbing_record h m
  | buffer m => cases m <;> exact ⟨h, by simp [reading, State.note]⟩
  | tick t => exact ⟨h, by simp [reading]⟩

/-- What is still read comes from the devices that are left in the round, each at most once. -/
theorem ebbing_readings {as : List Action} (h : Ebbing s) (other : .caller .spawn ∉ as) :
    ((readings cfg s as).map Reading.device).Sublist s.record.left := by
  induction as generalizing s with
  | nil => exact List.nil_sublist _
  | cons a as ih =>
    cases stepped : step cfg s a with
    | none => simp [readings, stepped]
    | some t =>
      obtain ⟨next, part⟩ := ebbing_step h (by rintro rfl; simp at other) (step_move stepped).2
      have later := ih next (by simp_all)
      simp only [readings, stepped, List.map_append]
      exact ((List.Sublist.refl _).append later).trans part

theorem length_records (xkb : Xkb X) (h : Heard X) (events : List Reading) :
    (events.foldl (Heard.hear xkb) h).records.length =
      h.records.length + events.countP fun e => !e.ev.isEsc := by
  induction events generalizing h with
  | nil => rfl
  | cons e events ih =>
    rw [List.foldl_cons, ih, List.countP_cons]
    unfold Heard.hear
    cases esc : e.ev.isEsc with
    | false =>
      rw [if_neg Bool.false_ne_true, records_add, List.length_append, List.length_singleton]
      simp only [Bool.not_false, if_true]
      omega
    | true => simp

/-- An ESC leaves no line, and every other event one. -/
theorem records_eq_iff (xkb : Xkb X) (h : Heard X) (events : List Reading) :
    (events.foldl (Heard.hear xkb) h).printed = h.printed ↔ ∀ e ∈ events, e.ev.isEsc = true := by
  constructor
  · intro same
    have lengths := congrArg List.length same
    rw [printed_eq, printed_eq, List.length_map, List.length_map, length_records] at lengths
    have none := List.countP_eq_zero.mp (Nat.left_eq_add.mp lengths.symm)
    exact fun e inside => by simpa using none e inside
  · intro esc
    induction events with
    | nil => rfl
    | cons e events ih =>
      have skip : h.hear xkb e = h := if_pos (esc e (by simp))
      rw [List.foldl_cons, skip]
      exact ih fun e inside => esc e (by simp [inside])

/-- A fixed-length session at an ESC: what is read from it on comes from the devices that were left
in its round, and the file ends with the events before it if and only if all of that is ESC. -/
theorem esc_cuts_iff {pre post : List Action} {esc : InputEvent} (fixed : cfg.mContinuous = false)
    (session : Session cfg s (pre ++ .record (.read (.event esc)) :: post) s')
    (before : run (step cfg) s pre = some t) (isEsc : esc.isEsc = true) :
    ∃ d rest, t.record = .read (d :: rest) ∧
      ((readings cfg t (.record (.read (.event esc)) :: post)).map Reading.device).Sublist
        (d :: rest) ∧
      (eventLines (s'.cmdFile cfg.mFilename) =
          (heard cfg.xkb s.mXkbState (readings cfg s pre)).printed ↔
        ∀ e ∈ readings cfg t (.record (.read (.event esc)) :: post), e.ev.isEsc = true) := by
  have whole := session.runs
  rw [run_append, before, Option.bind_some] at whole
  obtain ⟨u, stepped, -⟩ := Option.bind_eq_some_iff.mp whole
  have lines : eventLines (s'.cmdFile cfg.mFilename) =
        (heard cfg.xkb s.mXkbState (readings cfg s pre)).printed ↔
      ∀ e ∈ readings cfg t (.record (.read (.event esc)) :: post), e.ev.isEsc = true := by
    rw [fixed_lines fixed session, readings_append _ before, heard, List.foldl_append]
    exact records_eq_iff ..
  cases (step_move stepped).2 with
  | record m =>
    cases m with
    | readEvent d rest _ pc =>
      refine ⟨d, rest, pc, ?_, lines⟩
      have flagged : received t.clock d esc rest = .escFlag rest := if_pos isEsc
      have ebbing : Ebbing { t with record := received t.clock d esc rest } := by
        rw [flagged]
        trivial
      have single : .caller .spawn ∉ post := fun inside => session.single (by simp [inside])
      have later : ((readings cfg _ post).map Reading.device).Sublist _ :=
        ebbing_readings ebbing single
      rw [left_received] at later
      have here : reading t (.record (.read (.event esc))) = some ⟨t.clock, d, esc⟩ := by
        simp [reading, pc]
      rw [readings, stepped, here]
      exact later.cons_cons d

/-- A keyboard and a mouse. -/
def deskRecorder : Config Unit :=
  { keyboardRecorder false 30000 with
    availableDevices := [⟨3, [], .keyboard, ⟨0, 0⟩, ⟨0, 0⟩⟩, ⟨4, [], .mouse, ⟨0, 0⟩, ⟨0, 0⟩⟩]
    distinct := by decide }

/-- From the start of the thread to a round in which both are ready, and a key before it. -/
def bothReady : List Action :=
  List.flatten [enterLoop.drop 2, [.tick 1000, .record .elapsedNow, .record .elapsedCheck],
    deliver ⟨evKey, 30, 1⟩, [.record .elapsedNow, .record .elapsedCheck,
      .record (.select (.ready [3, 4]) 0)]]

def pressEsc : Action := .record (.read (.event ⟨evKey, keyEsc, 1⟩))

/-- The mouse gives nothing in that round, -/
def escAlone : List Action :=
  [.record .escFlag, .record .escTime, .record (.read .nothing), .record .load]

/-- or it moves. -/
def escThenMove : List Action :=
  [.record .escFlag, .record .escTime, .record (.read (.event ⟨evRel, relX, 5⟩)), .record .keysym,
   .record .store, .record .load]

theorem esc_cuts_alone : ∃ s s' : State Unit,
    Session deskRecorder s (bothReady ++ pressEsc :: escAlone) s' ∧
    eventLines (s'.cmdFile "rec") =
      (heard deskRecorder.xkb s.mXkbState (readings deskRecorder s bothReady)).printed := by
  have session : Session deskRecorder _ (bothReady ++ pressEsc :: escAlone) _ :=
    ⟨⟨some (), 0, enterLoop.take 2, Option.eq_some_of_isSome (by decide)⟩, by decide,
      Option.eq_some_of_isSome (by decide), by decide, by decide⟩
  obtain ⟨d, rest, -, -, clean⟩ :=
    esc_cuts_iff rfl session (Option.eq_some_of_isSome (by decide)) (by decide)
  exact ⟨_, _, session, clean.mpr (by decide)⟩

/-- The move that is read after the ESC is in the file. -/
theorem esc_leaks : ∃ s t s' : State Unit,
    Session deskRecorder s (bothReady ++ pressEsc :: escThenMove) s' ∧
    run (step deskRecorder) s bothReady = some t ∧
    readings deskRecorder s (bothReady ++ pressEsc :: escThenMove) =
      [⟨1000, ⟨3, [], .keyboard, ⟨0, 0⟩, ⟨0, 0⟩⟩, ⟨evKey, 30, 1⟩⟩,
       ⟨1000, ⟨3, [], .keyboard, ⟨0, 0⟩, ⟨0, 0⟩⟩, ⟨evKey, keyEsc, 1⟩⟩,
       ⟨1000, ⟨4, [], .mouse, ⟨0, 0⟩, ⟨0, 0⟩⟩, ⟨evRel, relX, 5⟩⟩] ∧
    s'.cmdFile "rec" =
      some (recording 0 [⟨1000, .keyboard, 1, 30, 1, 38⟩, ⟨1000, .mouse, 2, 0, 5, 0⟩]) ∧
    eventLines (s'.cmdFile "rec") ≠
      (heard deskRecorder.xkb s.mXkbState (readings deskRecorder s bothReady)).printed :=
  ⟨_, _, _,
    ⟨⟨some (), 0, enterLoop.take 2, Option.eq_some_of_isSome (by decide)⟩, by decide,
      Option.eq_some_of_isSome (by decide), by decide, by decide⟩,
    Option.eq_some_of_isSome (by decide), by decide, by decide, by decide⟩

end TestRunner.Recorder
