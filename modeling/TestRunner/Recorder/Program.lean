import TestRunner.Recorder.Outcome
import Mathlib.Tactic.IntervalCases

/-! The recorder as a program of its own: `main()` makes one session and destroys the recorder. -/
namespace TestRunner.Recorder

variable {X : Type} {cfg : Config X} {s s' : State X}

def Action.call : Action → Option CallerAction
  | .caller a => some a
  | _ => none

/-- The statements of `main()`: `Start()`, ten seconds later `Stop()`, and the destructor. -/
def mainCalls : List CallerAction :=
  [.start, .spawn, .stopFlag, .stopTime, .stopJoin, .unrefState, .unrefKeymap, .unrefCtx,
    .checkJoinable, .close]

/-- Where `main()` is before each of them, and at its end. -/
def mainPcs : List CallerPc :=
  [.idle, .spawning, .idle, .stopping, .joining, .idle, .unrefKeymap, .unrefCtx, .checkJoinable,
    .closing, .destroyed]

/-- What holds after so many statements of `main()`. -/
structure Stage (cfg : Config X) (s : State X) (n : Nat) : Prop where
  caller : mainPcs[n]? = some s.caller
  joinable : s.mRecorderThread = decide (2 ≤ n ∧ n ≤ 4)
  inactive : n = 0 → s.mStop = true
  alive : n ≤ 5 → s.mXkbState ≠ .released
  sound : s.fault = none
  reply : 5 ≤ n → ∃ path, s.reply = some (.path path) ∧ s.whole path
  closed : n = 10 → s.closed = cfg.availableDevices.map InDevice.fd

theorem stage_initial (xkb : Option X) (now : Nat) : Stage cfg (initial cfg xkb now) 0 := by
  constructor
  · rfl
  · rfl
  · exact fun _ => rfl
  · intro _
    cases xkb <;> simp [initial]
  · rfl
  · simp
  · simp

/-- Before `Stop()` returns there is no answer, and nothing is released. -/
theorem stage_early {n : Nat} (early : n < 5) (caller : mainPcs[n]? = some s.caller)
    (joinable : s.mRecorderThread = decide (2 ≤ n ∧ n ≤ 4)) (inactive : n = 0 → s.mStop = true)
    (alive : s.mXkbState ≠ .released) (sound : s.fault = none) : Stage cfg s n :=
  ⟨caller, joinable, inactive, fun _ => alive, sound, fun late => absurd late (by omega),
    fun last => absurd last (by omega)⟩

/-- After that the thread is gone and the file of the answer whole. -/
theorem stage_late {n : Nat} (late : 5 < n) (caller : mainPcs[n]? = some s.caller)
    (free : s.mRecorderThread = false) (sound : s.fault = none)
    (reply : ∃ path, s.reply = some (.path path) ∧ s.whole path)
    (closed : n = 10 → s.closed = cfg.availableDevices.map InDevice.fd) : Stage cfg s n :=
  ⟨caller, free.trans (decide_eq_false (by omega)).symm, fun first => absurd first (by omega),
    fun early => absurd early (by omega), sound, fun _ => reply, closed⟩

/-- A statement of `main()` in its turn. -/
theorem stage_caller {a : CallerAction} {n : Nat} (next : mainCalls[n]? = some a)
    (complete : Complete cfg s) (stage : Stage cfg s n) (m : CallerMove cfg s a s') :
    Stage cfg s' (n + 1) := by
  obtain ⟨caller, joinable, inactive, alive, sound, reply, closed⟩ := stage
  have small : n < 10 := (List.getElem?_eq_some_iff.mp next).1
  interval_cases n <;> simp [mainCalls, mainPcs] at next caller <;> subst next
  · cases m with
    | startActive pc free active => simp [State.isActive, inactive rfl] at active
    | startInactive pc free _ =>
      exact stage_early (by decide) rfl joinable (by simp) (alive (by decide)) sound
  · cases m with
    | terminate pc held => simp [joinable] at held
    | spawn pc free => exact stage_early (by decide) rfl rfl (by simp) (alive (by decide)) sound
  · cases m with
    | stopFlag pc free => exact stage_early (by decide) rfl joinable (by simp) (alive (by decide)) sound
  · cases m with
    | stopTime pc => exact stage_early (by decide) rfl joinable (by simp) (alive (by decide)) sound
  · cases m with
    | joinThrows pc free => simp [joinable] at free
    | stopJoin pc held ended =>
      have whole := complete.whole ended
      exact ⟨rfl, rfl, by simp, fun _ => alive (by decide), sound, fun _ => ⟨_, rfl, whole⟩, by simp⟩
  · cases m with
    | unrefState pc => exact stage_late (by decide) rfl joinable sound (reply (by decide)) (by simp)
  · cases m with
    | unrefKeymap pc => exact stage_late (by decide) rfl joinable sound (reply (by decide)) (by simp)
  · cases m with
    | unrefCtx pc => exact stage_late (by decide) rfl joinable sound (reply (by decide)) (by simp)
  · cases m with
    | checkJoinable pc held => simp [joinable] at held
    | checkFree pc free => exact stage_late (by decide) rfl joinable sound (reply (by decide)) (by simp)
  · cases m with
    | close pc => exact stage_late (by decide) rfl joinable sound (reply (by decide)) fun _ => rfl

/-- The statements of the threads end before `Stop()` returns. -/
theorem stage_thread {a : Action} {n : Nat} (base : Base cfg s) (other : a.call = none)
    (stage : Stage cfg s n) (move : Move cfg s a s') : Stage cfg s' n := by
  obtain ⟨caller, joinable, inactive, alive, sound, reply, closed⟩ := stage
  cases move with
  | caller m => cases other
  | tick t => exact ⟨caller, joinable, inactive, alive, sound, reply, closed⟩
  | record m =>
    have running : s.record ≠ .absent := by cases m <;> simp [*]
    have between : 2 ≤ n ∧ n ≤ 4 := by simpa [joinable] using base.joinable.mpr running
    have early : ¬ 5 ≤ n := by omega
    cases m with
    | keysymReleased e rest pc resolves dead => exact absurd dead (alive (by omega))
    | updateReleased e sym rest d pc dir dead => exact absurd dead (alive (by omega))
    | _ =>
      refine ⟨caller, joinable, fun first => ?_, ?_, sound, fun late => absurd late early, closed⟩
      · omega
      · first | exact alive | simp
  | buffer m =>
    have running : s.buffer ≠ .absent := by cases m <;> simp [*]
    have between : 2 ≤ n ∧ n ≤ 4 := by
      have inside := (base.buffered running).2
      have some : s.record ≠ .absent := by
        rintro pc
        simp [pc] at inside
      simpa [joinable] using base.joinable.mpr some
    have early : ¬ 5 ≤ n := by omega
    cases m <;> exact ⟨caller, joinable, inactive, alive, sound, fun late => absurd late early, closed⟩

theorem stage_run {xkb : Option X} {now : Nat} {as : List Action}
    (reached : run (step cfg) (initial cfg xkb now) as = some s)
    (calls : as.filterMap Action.call <+: mainCalls) :
    Stage cfg s (as.filterMap Action.call).length := by
  induction as using List.reverseRecOn generalizing s with
  | nil =>
    cases Option.some.inj reached
    exact stage_initial xkb now
  | append_singleton as a ih =>
    obtain ⟨t, before, stepped⟩ := run_snoc.mp reached
    obtain ⟨base, complete⟩ := complete_run before
    have move := (step_move stepped).2
    rw [List.filterMap_append] at calls ⊢
    have stage := ih before ((List.prefix_append _ _).trans calls)
    cases call : a.call with
    | none =>
      have none : [a].filterMap Action.call = [] := by simp [call]
      rw [none, List.append_nil]
      exact stage_thread base call stage move
    | some c =>
      cases a with
      | caller a' =>
        cases call
        have next : mainCalls[(as.filterMap Action.call).length]? = some c := by
          obtain ⟨rest, split⟩ := calls
          rw [← split]
          simp [Action.call]
        cases move with
        | caller m => simpa [Action.call] using stage_caller next complete stage m
      | _ => cases call

/-- In every interleaving the program never faults, and when it ends its threads have ended and its
descriptors are closed. -/
theorem program_ended {xkb : Option X} {now : Nat} {as : List Action}
    (reached : run (step cfg) (initial cfg xkb now) as = some s)
    (calls : as.filterMap Action.call <+: mainCalls) :
    s.fault = none ∧ (s.caller = .destroyed → as.filterMap Action.call = mainCalls ∧
      s.record = .absent ∧ s.buffer = .absent ∧ s.closed = cfg.availableDevices.map InDevice.fd) := by
  have stage := stage_run reached calls
  obtain ⟨base, -⟩ := complete_run reached
  refine ⟨stage.sound, fun ended => ?_⟩
  have last : (as.filterMap Action.call).length = 10 := by
    have caller := stage.caller
    generalize (as.filterMap Action.call).length = n at caller
    have small : n < 11 := (List.getElem?_eq_some_iff.mp caller).1
    interval_cases n <;> simp [mainPcs, ended] at caller ⊢
  rw [last] at stage
  have record : s.record = .absent := by
    by_contra some
    simpa [stage.joinable] using base.joinable.mpr some
  exact ⟨calls.eq_of_length last, record, base.buffer_absent (by simp [record]), stage.closed rfl⟩

section Ended

open OnDisk

variable {t t' : OnDisk X}

/-- The statements of `main()` after `Stop()`. -/
def destructorCalls : List CallerAction :=
  [.unrefState, .unrefKeymap, .unrefCtx, .checkJoinable, .close]

/-- They leave the reply of `Stop()` alone. -/
theorem reply_step {a : OnDisk.Action} (move : OnDisk.Move cfg t a t')
    (after : ∀ c ∈ a.statement.bind Action.call, c ∈ destructorCalls) :
    t'.recorder.reply = t.recorder.reply := by
  cases move with
  | recorder a success s joined move =>
    cases move with
    | caller m =>
      have among := after _ rfl
      cases m <;> first | rfl | simp [destructorCalls] at among
    | record m => cases m <;> rfl
    | buffer m => cases m <;> rfl
    | tick u => rfl
  | _ => rfl

/-- From the return of `Stop()` on, the reply and the disk are as they were. -/
theorem destructor_run {as : List OnDisk.Action} (h : run (OnDisk.step cfg) t as = some t')
    (calls : as.filterMap (fun a => a.statement.bind Action.call) = destructorCalls)
    (record : t.recorder.record = .absent) (buffer : t.recorder.buffer = .absent)
    (closed : t.disk.out = .closed) :
    t'.recorder.reply = t.recorder.reply ∧ t'.disk = t.disk ∧ t'.opened = t.opened := by
  have among : ∀ a ∈ as, ∀ c ∈ a.statement.bind Action.call, c ∈ destructorCalls := by
    intro a inside c call
    rw [← calls]
    exact List.mem_filterMap.mpr ⟨a, inside, call⟩
  have quiet := OnDisk.quiet_run h record buffer closed (by
    intro spawn
    obtain ⟨a, inside, here⟩ := List.mem_filterMap.mp spawn
    have call := among a inside .spawn (by simp [here, Action.call])
    simp [destructorCalls] at call)
  refine ⟨?_, quiet.disk, quiet.opened⟩
  refine run_invariant (I := fun u => u.recorder.reply = t.recorder.reply) h rfl ?_
  intro a inside u u' stepped same
  exact (reply_step (OnDisk.step_move stepped) (among a inside)).trans same

/-- The join of `main()` finds a thread. -/
theorem stop_normal {xkb : Option X} {now : Nat} {old : String → Option (List Char)}
    {as : List OnDisk.Action} {success : Bool}
    (reached : run (OnDisk.step cfg) (OnDisk.initial cfg xkb now old) as = some t)
    (calls : as.filterMap (fun a => a.statement.bind Action.call) =
      [.start, .spawn, .stopFlag, .stopTime])
    (returns : OnDisk.step cfg t (.recorder (.caller .stopJoin) success) = some t') :
    t'.recorder.reply ≠ some .systemError := by
  have stage := stage_run (OnDisk.recorder_run reached) (by
    rw [List.filterMap_filterMap, calls]
    exact ⟨_, rfl⟩)
  have joinable := stage.joinable
  rw [List.filterMap_filterMap, calls] at joinable
  cases OnDisk.step_move returns with
  | recorder a success s joined move =>
    cases move with
    | caller m =>
      cases m with
      | joinThrows pc free => simp [free] at joinable
      | stopJoin pc held ended => simp [after, State.note]

/-- In every interleaving the program never faults. When it is over its threads have ended and the
descriptors of its devices are closed, and if its file could be opened and no write failed, the file
that `Stop()` named is a whole recording. -/
theorem program_safe (cfg : Config X) (xkb : Option X) (now : Nat) (old : String → Option (List Char))
    (as : List OnDisk.Action) (t : OnDisk X)
    (reached : run (OnDisk.step cfg) (OnDisk.initial cfg xkb now old) as = some t)
    (calls : as.filterMap (fun a => a.statement.bind Action.call) <+: mainCalls) :
    t.recorder.fault = none ∧ (t.recorder.caller = .destroyed →
      t.recorder.record = .absent ∧ t.recorder.buffer = .absent ∧
      t.recorder.closed = cfg.availableDevices.map InDevice.fd ∧
      ((∀ o ∈ t.opened, o.2 = true) → ∃ path file, t.recorder.reply = some (.path path) ∧
        t.disk.files path = some file ∧ file.owner ≠ 0 ∧ (file.intact = true → ∃ start records,
          file.text = fileText (recording start records) ∧ decodeFile file.text =
            some ⟨recordingFormatVersion, start.tmod dayMs, records.map InputRecord.decoded⟩))) := by
  have nested : (as.filterMap OnDisk.Action.statement).filterMap Action.call =
      as.filterMap (fun a => a.statement.bind Action.call) := List.filterMap_filterMap
  rw [← nested] at calls
  obtain ⟨sound, ended⟩ := program_ended (OnDisk.recorder_run reached) calls
  refine ⟨sound, fun destroyed => ?_⟩
  obtain ⟨all, record, buffer, closed⟩ := ended destroyed
  refine ⟨record, buffer, closed, fun succeeds => ?_⟩
  have split : as.filterMap (fun a => a.statement.bind Action.call) =
      [.start, .spawn, .stopFlag, .stopTime] ++ .stopJoin :: destructorCalls := nested.symm.trans all
  obtain ⟨pre, rest, rfl, first, split⟩ := List.filterMap_eq_append_iff.mp split
  obtain ⟨mid, a, post, rfl, none, join, late⟩ := List.filterMap_eq_cons_iff.mp split
  rw [← List.append_assoc, run_append] at reached
  obtain ⟨u, before, middle⟩ := Option.bind_eq_some_iff.mp reached
  obtain ⟨v, returns, ending⟩ := Option.bind_eq_some_iff.mp middle
  obtain ⟨success, rfl⟩ : ∃ success, a = .recorder (.caller .stopJoin) success := by
    obtain ⟨b, here, call⟩ := Option.bind_eq_some_iff.mp join
    cases a <;> cases here
    cases b <;> cases call
    exact ⟨_, rfl⟩
  have early : (pre ++ mid).filterMap (fun a => a.statement.bind Action.call) =
      [.start, .spawn, .stopFlag, .stopTime] := by
    rw [List.filterMap_append, first, List.filterMap_eq_nil_iff.mpr none]
    rfl
  obtain ⟨saved, joined, filled⟩ := stopped before returns (stop_normal before early returns)
  have unbuffered : v.recorder.buffer = .absent := by
    rw [joined.buffer, saved.base.buffer_absent (by simp [joined.ended])]
  obtain ⟨reply, disk, opened⟩ := destructor_run ending late joined.record unbuffered
    (by rw [joined.disk, joined.closed])
  rw [opened, joined.opened] at succeeds
  obtain ⟨file, start, records, here, owner, -, text⟩ := filled succeeds
  refine ⟨_, file, reply.trans joined.reply, disk ▸ here, ?_, fun intact =>
    ⟨start, records, text intact, ?_⟩⟩
  · rw [owner, joined.session]
    exact saved.counted (by simp [joined.ended])
  · rw [text intact]
    exact decodeFile_recording start records

/-- A fixed-length program that `Stop()` ends. -/
def stoppedProgram : List OnDisk.Action :=
  List.flatten [onDisk true (List.flatten [enterLoop, [.record .elapsedNow, .record .elapsedCheck],
    deliver ⟨evKey, 30, 1⟩, [.tick 10000, .caller .stopFlag, .caller .stopTime,
      .record .elapsedNow, .record .elapsedCheck, .record (.select .timeout 0), .record .load]]),
    [.close], onDisk true [.caller .stopJoin, .caller .unrefState, .caller .unrefKeymap,
      .caller .unrefCtx, .caller .checkJoinable, .caller .close]]

theorem program_safe_stopped : ∃ t : OnDisk Unit,
    run (OnDisk.step (keyboardRecorder false 30000))
      (OnDisk.initial (keyboardRecorder false 30000) (some ()) 0 fun _ => none) stoppedProgram =
        some t ∧ t.recorder.caller = .destroyed ∧ (∀ o ∈ t.opened, o.2 = true) ∧
    t.recorder.fault = none ∧ (t.recorder.caller = .destroyed →
      t.recorder.record = .absent ∧ t.recorder.buffer = .absent ∧
      t.recorder.closed = (keyboardRecorder false 30000).availableDevices.map InDevice.fd ∧
      ((∀ o ∈ t.opened, o.2 = true) → ∃ path file, t.recorder.reply = some (.path path) ∧
        t.disk.files path = some file ∧ file.owner ≠ 0 ∧ (file.intact = true → ∃ start records,
          file.text = fileText (recording start records) ∧ decodeFile file.text =
            some ⟨recordingFormatVersion, start.tmod dayMs, records.map InputRecord.decoded⟩))) :=
  ⟨_, Option.eq_some_of_isSome (by decide), by decide, by decide,
    program_safe _ _ _ _ stoppedProgram _ (Option.eq_some_of_isSome (by decide)) (by decide)⟩

end Ended

end TestRunner.Recorder
