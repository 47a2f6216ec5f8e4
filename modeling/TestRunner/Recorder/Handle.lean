import TestRunner.Recorder.Lifecycle
import Mathlib.Data.List.Induction

/-! The thread handle and `isActive`: which orders of requests keep `Start` and `Stop`
away from a handle in the wrong state, and when an ended thread reads as inactive. -/
namespace TestRunner.Recorder

variable {X : Type} {cfg : Config X} {s s' : State X}

def unstopped (log : List Entry) : Bool :=
  log.foldl (fun b e => match e with | .spawned => true | .joined => false | _ => b) false

/-- A recording is requested while the recorder is active or nothing is left to stop,
and a stop is requested for a started session only. -/
def Orderly (s : State X) (a : Action) : Prop :=
  (a = .caller .start → s.isActive = false → unstopped s.log = false) ∧
  (a = .caller .stopFlag → unstopped s.log = true)

/-- No thread is assigned to a joinable handle, and none but a joinable one is joined. -/
def HandleSafe (s : State X) (a : Action) : Prop :=
  (a = .caller .spawn → s.mRecorderThread = false) ∧
  (a = .caller .stopJoin → s.mRecorderThread = true)

instance (s : State X) (a : Action) : Decidable (Orderly s a) :=
  inferInstanceAs (Decidable (_ ∧ _))

instance (s : State X) (a : Action) : Decidable (HandleSafe s a) :=
  inferInstanceAs (Decidable (_ ∧ _))

@[simp] theorem unstopped_append (log : List Entry) (e : Entry) :
    unstopped (log ++ [e]) =
      match e with | .spawned => true | .joined => false | _ => unstopped log := by
  simp only [unstopped, List.foldl_append, List.foldl_cons, List.foldl_nil]

theorem handle_unstopped_step {a : Action} (move : Move cfg s a s')
    (h : s.mRecorderThread = unstopped s.log) : s'.mRecorderThread = unstopped s'.log := by
  cases move with
  | caller m => cases m <;> simp_all [State.note]
  | record m => cases m <;> simp_all [State.note]
  | buffer m => cases m <;> simp_all [State.note]
  | tick t => exact h

structure CallerReady (s : State X) : Prop where
  handle : s.mRecorderThread = unstopped s.log
  spawning : s.caller = .spawning → s.mRecorderThread = false
  joining : s.caller = .stopping ∨ s.caller = .joining → s.mRecorderThread = true

theorem callerReady_step {a : Action} (orderly : Orderly s a) (move : Move cfg s a s')
    (h : CallerReady s) : CallerReady s' := by
  obtain ⟨handle, spawning, joining⟩ := h
  obtain ⟨start, stop⟩ := orderly
  refine ⟨handle_unstopped_step move handle, ?_, ?_⟩
  all_goals
    cases move with
    | caller m => cases m <;> simp_all [State.note]
    | record m => cases m <;> simp_all [State.note]
    | buffer m => cases m <;> simp_all [State.note]
    | tick t => assumption

theorem callerReady_safe {a : Action} (move : Move cfg s a s') (h : CallerReady s) :
    HandleSafe s a := by
  obtain ⟨handle, spawning, joining⟩ := h
  constructor
  · rintro rfl
    cases move with | caller m => cases m <;> simp_all
  · rintro rfl
    cases move with | caller m => cases m <;> simp_all

theorem callerReady_initial (xkb : Option X) (now : Nat) : CallerReady (initial cfg xkb now) := by
  constructor <;> simp [initial, unstopped]

/-- A call that has been let in with the handle in the wrong state. -/
def Doomed (s : State X) : Prop :=
  (s.caller = .spawning ∧ s.mRecorderThread = true) ∨
  ((s.caller = .stopping ∨ s.caller = .joining) ∧ s.mRecorderThread = false)

theorem doomed_step {a : Action} (safe : HandleSafe s a) (move : Move cfg s a s')
    (h : Doomed s) : Doomed s' := by
  unfold Doomed at *
  obtain ⟨spawn, join⟩ := safe
  cases move with
  | caller m => cases m <;> simp_all [State.note]
  | record m => cases m <;> simp_all [State.note]
  | buffer m => cases m <;> simp_all [State.note]
  | tick t => exact h

theorem disorderly_doomed {a : Action} (handle : s.mRecorderThread = unstopped s.log)
    (bad : ¬ Orderly s a) (move : Move cfg s a s') : Doomed s' := by
  unfold Orderly at bad
  unfold Doomed
  cases move with
  | caller m => cases m <;> simp_all
  | _ => simp at bad

/-- Every disorderly request of a safe run is still on its way to the handle. -/
theorem orderly_or_doomed (xkb : Option X) (now : Nat) (as : List Action) (s : State X)
    (h : run (step cfg) (initial cfg xkb now) as = some s)
    (safe : Along (step cfg) HandleSafe (initial cfg xkb now) as) :
    s.mRecorderThread = unstopped s.log ∧
      (Along (step cfg) Orderly (initial cfg xkb now) as ∨ Doomed s) := by
  induction as using List.reverseRecOn generalizing s with
  | nil =>
    cases Option.some.inj h
    exact ⟨(callerReady_initial xkb now).handle, .inl trivial⟩
  | append_singleton as a ih =>
    obtain ⟨m, hm, ha⟩ := run_snoc.mp h
    obtain ⟨before, last⟩ := (along_snoc hm).mp safe
    obtain ⟨handle, status⟩ := ih m hm before
    have move := (step_move ha).2
    refine ⟨handle_unstopped_step move handle, ?_⟩
    rcases status with orderly | doomed
    · by_cases request : Orderly m a
      · exact .inl ((along_snoc hm).mpr ⟨orderly, request⟩)
      · exact .inr (disorderly_doomed handle request move)
    · exact .inr (doomed_step last move doomed)

/-- Orderly requests keep the handle discipline in every run, and once the calls of a
run have returned nothing but orderly requests can have kept it. -/
theorem handle_discipline (xkb : Option X) (now : Nat) (as : List Action) (s : State X)
    (h : run (step cfg) (initial cfg xkb now) as = some s) :
    (Along (step cfg) Orderly (initial cfg xkb now) as →
      Along (step cfg) HandleSafe (initial cfg xkb now) as) ∧
    (s.caller = .idle → Along (step cfg) HandleSafe (initial cfg xkb now) as →
      Along (step cfg) Orderly (initial cfg xkb now) as) := by
  constructor
  · intro orderly
    refine along_imp h (callerReady_initial xkb now) orderly fun s a t ready request move => ?_
    have move := (step_move move).2
    exact ⟨callerReady_step request move ready, callerReady_safe move ready⟩
  · intro idle safe
    rcases (orderly_or_doomed xkb now as s h safe).2 with orderly | doomed
    · exact orderly
    · simp [Doomed, idle] at doomed

def startCall : List Action := [.caller .start, .caller .spawn]

theorem handle_discipline_elapsed :
    Along (step (keyboardRecorder false 30000)) HandleSafe
      (initial (keyboardRecorder false 30000) (some ()) 0)
      (elapsedSession ++ stopCall) :=
  (handle_discipline (some ()) 0 _ _ (Option.eq_some_of_isSome (by decide))).1 (by decide)

/-- A session that has ended by itself is started over; a recorder that was never started
is stopped. -/
theorem restart_terminates :
    (¬ Along (step (keyboardRecorder false 30000)) HandleSafe
        (initial (keyboardRecorder false 30000) (some ()) 0) (elapsedSession ++ startCall) ∧
      (run (step (keyboardRecorder false 30000))
        (initial (keyboardRecorder false 30000) (some ()) 0) (elapsedSession ++ startCall)).map
          State.fault = some (some .terminate)) ∧
    (¬ Along (step (keyboardRecorder false 30000)) HandleSafe
        (initial (keyboardRecorder false 30000) (some ()) 0) stopCall ∧
      (run (step (keyboardRecorder false 30000))
        (initial (keyboardRecorder false 30000) (some ()) 0) stopCall).map State.reply =
          some (some .systemError)) := by
  decide

def Ended (s : State X) : Prop := s.record = .absent ∨ s.record = .returned

def EndsInactive (cfg : Config X) (s : State X) (as : List Action) : Prop :=
  ∀ pre t, pre <+: as → run (step cfg) s pre = some t → Ended t → t.isActive = false

def Action.selectError : Action → Bool
  | .record (.select .error _) => true
  | _ => false

/-- A fixed-length recording meets an error of `select` only after a stop. -/
def SelectOk (cfg : Config X) (s : State X) (a : Action) : Prop :=
  a.selectError = true → cfg.mContinuous = false → s.mStop = true

instance (s : State X) : Decidable (Ended s) := inferInstanceAs (Decidable (_ ∨ _))

instance (cfg : Config X) (s : State X) (a : Action) : Decidable (SelectOk cfg s a) :=
  inferInstanceAs (Decidable (_ → _ → _))

theorem not_ended_of_inSession (h : s.record.inSession = true) : ¬ Ended s := by
  rintro (absent | returned)
  · simp [absent] at h
  · simp [returned] at h

theorem ended_step {a : Action} (base : Base cfg s) (ok : SelectOk cfg s a)
    (move : Move cfg s a s') (h : Ended s → s.mStop = true) : Ended s' → s'.mStop = true := by
  cases move with
  | caller m => cases m <;> simp_all [Ended, State.note]
  | record m =>
    cases m with
    | loadStop pc stop => exact fun _ => stop
    | elapsed t pc free late => exact fun _ => rfl
    | select o left pc =>
      cases o with
      | error =>
        cases mode : cfg.mContinuous with
        | true =>
          intro ended
          exact absurd ended (not_ended_of_inSession (afterSelect_inSession (s := s) cfg .error mode))
        | false => exact fun _ => ok rfl mode
      | _ => exact fun ended => absurd ended (not_ended_of_inSession (by simp [afterSelect]))
    | joinBuffer pc ended => exact fun _ => base.sawStop (by simp [ended, BufferPc.sawStop])
    | readEvent | readNothing | escTime | push | append =>
      exact fun ended => absurd ended (not_ended_of_inSession (by simp [State.note]))
    | _ => simp_all [Ended, State.note]
  | buffer m => cases m <;> exact h
  | tick t => exact h

/-- Without such an error every ended thread reads as inactive, and the first such error
of a run makes the next state an ended thread that reads as active. -/
theorem ended_inactive_iff (xkb : Option X) (now : Nat) (as : List Action) (s : State X)
    (h : run (step cfg) (initial cfg xkb now) as = some s) :
    EndsInactive cfg (initial cfg xkb now) as ↔
      Along (step cfg) (SelectOk cfg) (initial cfg xkb now) as := by
  constructor
  · intro agrees
    refine along_iff.mpr ?_
    rintro pre a post rfl t ht error mode
    obtain ⟨u, hu, -⟩ := Option.bind_eq_some_iff.mp
      (show (run (step cfg) t (a :: post)) = some s by rw [run_append, ht] at h; exact h)
    have next := agrees (pre ++ [a]) u (by simp) (run_snoc.mpr ⟨t, ht, hu⟩)
    cases (step_move hu).2 with
    | record m =>
      cases m with
      | select o left pc =>
        cases o with
        | error => simpa [Ended, State.isActive, afterSelect, Config.exitLoop, mode] using next
        | _ => cases error
      | _ => cases error
    | _ => cases error
  · rintro ok pre t ⟨post, rfl⟩ ht ended
    have reach : Reaches (step cfg) (SelectOk cfg) (initial cfg xkb now) t :=
      ⟨pre, ht, ((along_append post ht).mp ok).1⟩
    have inv := reach.invariant (I := fun s => Base cfg s ∧ (Ended s → s.mStop = true))
      ⟨base_initial xkb now, fun _ => rfl⟩ fun s a t cond move inv =>
        have move := (step_move move).2
        ⟨base_step inv.1 move, ended_step inv.1 cond move inv.2⟩
    simp [State.isActive, inv.2 ended]

theorem ended_inactive_elapsed :
    EndsInactive (keyboardRecorder false 30000)
      (initial (keyboardRecorder false 30000) (some ()) 0) elapsedSession :=
  (ended_inactive_iff (some ()) 0 _ _ (Option.eq_some_of_isSome (by decide))).2 (by decide)

def selectFails : List Action :=
  enterLoop.append [.record .elapsedNow, .record .elapsedCheck, .record (.select .error 10000)]

theorem select_error_active : ∃ s,
    run (step (keyboardRecorder false 30000)) (initial (keyboardRecorder false 30000) (some ()) 0)
      selectFails = some s ∧ Ended s ∧ s.isActive = true :=
  ⟨_, Option.eq_some_of_isSome (by decide), by decide, by decide⟩

end TestRunner.Recorder
