import TestRunner.Recorder.Lifecycle

/-! Whether a stop request survives. `Start` only spawns the thread; it is the new thread
that clears `m_stop`, so what a stop finds that thread doing decides. -/
namespace TestRunner.Recorder

variable {X : Type} {cfg : Config X} {s s' : State X}

/-- `is_done()` has just returned false to the recording loop. -/
def StartsIteration (s s' : State X) : Prop := s.record ≠ .select ∧ s'.record = .select

/-- Until a new session is spawned `m_stop` stays set and the loop starts no iteration. -/
def StopKept (cfg : Config X) (s : State X) : Prop :=
  ∀ as t, run (step cfg) s as = some t → .caller .spawn ∉ as →
    t.mStop = true ∧ ∀ a u, a ≠ .caller .spawn → step cfg t a = some u → ¬ StartsIteration t u

/-- The recorder thread has yet to clear `m_stop`, or is inside a call of `is_done()` that
has loaded `m_stop` as false and will not find the length elapsed. -/
def StopExposed (cfg : Config X) (s : State X) : Prop :=
  s.record = .clearing ∨ s.record = .elapsedNow ∨
    ∃ now, s.record = .elapsedCheck now ∧ now - s.mStartTime < cfg.length

/-- The thread will load `m_stop` before it starts an iteration, or ends anyway. -/
def RecordPc.heedful (length start : Int) : RecordPc → Prop
  | .clearing | .stamping | .elapsedNow => False
  | .elapsedCheck now => now - start ≥ length
  | _ => True

theorem heedful_of_not_exposed (free : s.stopMtxFree = true) (safe : ¬ StopExposed cfg s) :
    s.record.heedful cfg.length s.mStartTime := by
  unfold StopExposed at safe
  cases pc : s.record with
  | elapsedCheck now =>
    by_contra early
    exact safe (.inr (.inr ⟨now, pc, not_le.mp early⟩))
  | stamping => simp [State.stopMtxFree, pc] at free
  | _ => simp_all [RecordPc.heedful]

theorem heedful_of_routine {pc : RecordPc} {length start : Int} (h : pc.routine = true) :
    pc.heedful length start := by
  cases pc <;> simp_all [RecordPc.routine, RecordPc.heedful]

theorem ne_select_of_routine {pc : RecordPc} (h : pc.routine = true) : pc ≠ .select := by
  rintro rfl
  cases h

structure Stopped (cfg : Config X) (s : State X) : Prop where
  stop : s.mStop = true
  heedful : s.record.heedful cfg.length s.mStartTime

theorem stopped_of_routine (stop : s'.mStop = true) (pc : s'.record.routine = true) :
    Stopped cfg s' ∧ ¬ StartsIteration s s' :=
  ⟨⟨stop, heedful_of_routine pc⟩, fun starts => ne_select_of_routine pc starts.2⟩

theorem stopped_step {a : Action} (old : a ≠ .caller .spawn) (move : Move cfg s a s')
    (h : Stopped cfg s) : Stopped cfg s' ∧ ¬ StartsIteration s s' := by
  obtain ⟨stop, heedful⟩ := h
  cases move with
  | caller m =>
    cases m <;> refine ⟨⟨?_, ?_⟩, ?_⟩ <;> simp_all [State.note, StartsIteration, RecordPc.heedful]
  | record m =>
    cases m with
    | loadStop => exact stopped_of_routine stop (exitLoop_routine cfg)
    | elapsed => exact stopped_of_routine rfl (exitLoop_routine cfg)
    | select o => exact stopped_of_routine stop (afterSelect_routine cfg o)
    | readEvent => exact stopped_of_routine stop (received_routine ..)
    | readNothing | escTime | push | append => exact stopped_of_routine stop (resume_routine _)
    | _ => refine ⟨⟨?_, ?_⟩, ?_⟩ <;> simp_all [StartsIteration, RecordPc.heedful]
  | buffer m => cases m <;> exact ⟨⟨stop, heedful⟩, fun starts => starts.1 starts.2⟩
  | tick t => exact ⟨⟨stop, heedful⟩, fun starts => starts.1 starts.2⟩

theorem stopped_kept (h : Stopped cfg s) : StopKept cfg s := by
  intro as t reached old
  have after : Stopped cfg t := run_invariant reached h fun a mem _ _ move inv =>
    (stopped_step (fun spawn => old (spawn ▸ mem)) (step_move move).2 inv).1
  exact ⟨after.stop, fun a u new move => (stopped_step new (step_move move).2 after).2⟩

theorem stop_block {b : CallerAction} (request : b = .stopFlag ∨ b = .destroyFlag)
    (h : step cfg s (.caller b) = some s') :
    ∃ f u, f ≠ .spawn ∧ step cfg s' (.caller f) = some u ∧ u.fault = none ∧
      u.stopMtxFree = true ∧ u.record = s.record ∧ u.mStartTime = s.mStartTime := by
  obtain ⟨fault, move⟩ := step_move h
  rcases request with rfl | rfl
  · cases move with
    | caller m =>
      cases m with
      | stopFlag pc free =>
        refine ⟨.stopTime, _, by simp, move_step fault (.caller (.stopTime rfl)), ?_⟩
        simp_all [State.note, State.stopMtxFree]
  · cases move with
    | caller m =>
      cases m with
      | destroyFlag pc free =>
        refine ⟨.destroyTime, _, by simp, move_step fault (.caller (.destroyTime rfl)), ?_⟩
        simp_all [State.note, State.stopMtxFree]

theorem StopKept.later {a : Action} (kept : StopKept cfg s) (old : a ≠ .caller .spawn)
    (move : step cfg s a = some s') : StopKept cfg s' := by
  intro as t reached new
  refine kept (a :: as) t (by simp [run, move, reached]) ?_
  simp only [List.mem_cons, not_or]
  exact ⟨Ne.symm old, new⟩

theorem elapsedCheck_goes_on (fault : s.fault = none) (free : s.stopMtxFree = true) (now : Int)
    (check : s.record = .elapsedCheck now) (early : now - s.mStartTime < cfg.length) :
    ¬ StopKept cfg s := by
  intro kept
  have starts := (kept [] s rfl (by simp)).2 (.record .elapsedCheck) _ (by simp)
    (move_step fault (.record (.notElapsed now check free (not_le.mpr early))))
  simp [StartsIteration, check] at starts

theorem exposed_goes_on (fault : s.fault = none) (free : s.stopMtxFree = true)
    (exposed : StopExposed cfg s) : ¬ StopKept cfg s := by
  intro kept
  rcases exposed with clearing | elapsedNow | ⟨now, check, early⟩
  · have cleared := kept.later (by simp) (move_step fault (.record (.clear clearing free)))
    cases (cleared [] _ rfl (by simp)).1
  · have ticked := kept.later (by simp) (move_step fault (.tick (s.mStartTime + cfg.length - 1)))
    have taken := ticked.later (by simp) (move_step fault (.record (.elapsedNow elapsedNow)))
    refine absurd taken (elapsedCheck_goes_on fault ?_ (s.mStartTime + cfg.length - 1) rfl ?_)
    · simpa [State.stopMtxFree, elapsedNow] using free
    · show s.mStartTime + cfg.length - 1 - s.mStartTime < cfg.length
      omega
  · exact elapsedCheck_goes_on fault free now check early kept

/-- A stop request is kept exactly when it does not find the thread exposed to it. -/
theorem stop_kept_iff (cfg : Config X) (s s' : State X) (b : CallerAction)
    (request : b = .stopFlag ∨ b = .destroyFlag) (h : step cfg s (.caller b) = some s') :
    StopKept cfg s' ↔ ¬ StopExposed cfg s := by
  constructor
  · intro kept exposed
    obtain ⟨f, u, old, block, fault, free, record, start⟩ := stop_block request h
    have later : StopKept cfg u := kept.later (fun eq => old (by injection eq)) block
    refine exposed_goes_on fault free ?_ later
    simpa only [StopExposed, record, start] using exposed
  · intro safe
    refine stopped_kept ?_
    rcases request with rfl | rfl
    · cases (step_move h).2 with
      | caller m =>
        cases m with
        | stopFlag pc free => exact ⟨rfl, heedful_of_not_exposed (s := s) free safe⟩
    · cases (step_move h).2 with
      | caller m =>
        cases m with
        | destroyFlag pc free => exact ⟨rfl, heedful_of_not_exposed (s := s) free safe⟩

theorem stop_kept_waiting : ∃ s s',
    run (step (keyboardRecorder true 30000)) (initial (keyboardRecorder true 30000) (some ()) 0)
      enterLoop = some s ∧
    step (keyboardRecorder true 30000) s (.caller .stopFlag) = some s' ∧
    StopKept (keyboardRecorder true 30000) s' := by
  refine ⟨_, _, Option.eq_some_of_isSome (by decide), Option.eq_some_of_isSome (by decide), ?_⟩
  refine (stop_kept_iff _ _ _ .stopFlag (.inl rfl) (Option.eq_some_of_isSome (by decide))).mpr ?_
  rintro (clearing | elapsedNow | ⟨now, check, -⟩)
  · exact absurd clearing (by decide)
  · exact absurd elapsedNow (by decide)
  · have waiting : RecordPc.select = .elapsedCheck now := check
    cases waiting

/-- A stop that comes before the new thread's first statement: the thread clears it and
records on while the caller waits for its end. -/
theorem stop_lost_unstarted : ∃ s t,
    run (step (keyboardRecorder true 30000)) (initial (keyboardRecorder true 30000) (some ()) 0)
      [.caller .start, .caller .spawn, .caller .stopFlag] = some s ∧
    run (step (keyboardRecorder true 30000)) s
      [.caller .stopTime, .record .clear, .record .stamp, .record .setup, .record .load] = some t ∧
    t.mStop = false ∧ t.record = .select ∧ t.caller = .joining ∧
    ¬ StopKept (keyboardRecorder true 30000) s := by
  refine ⟨_, _, Option.eq_some_of_isSome (by decide), Option.eq_some_of_isSome (by decide),
    by decide, by decide, by decide, fun kept => ?_⟩
  have lost := (kept [.caller .stopTime, .record .clear] _
    (Option.eq_some_of_isSome (by decide)) (by decide)).1
  revert lost
  decide

end TestRunner.Recorder
