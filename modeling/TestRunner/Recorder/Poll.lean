import TestRunner.Recorder.Join
import Mathlib.Data.List.Basic

/-! The timeouts that `Record()` gives to `select`: one variable for all calls of a session, which
the kernel overwrites. -/
namespace TestRunner.Recorder

variable {X : Type} {cfg : Config X} {s s' : State X} {as : List Action}

/-- The timeout that a statement gives to `select`. -/
def timeoutGiven (s : State X) : Action → Option Nat
  | .record (.select _ _) => some s.timeoutUsec
  | _ => none

/-- What the kernel leaves of the timeout. -/
def timeoutLeft : Action → Option Nat
  | .record (.select _ left) => some left
  | _ => none

/-- The timeouts of all calls of `select` in a run. -/
def timeouts (cfg : Config X) (s : State X) : List Action → List Nat
  | [] => []
  | a :: as =>
    match step cfg s a with
    | none => []
    | some t => (timeoutGiven s a).toList ++ timeouts cfg t as

/-- `select` on Linux: the time not slept is left, nothing of it after a timeout. -/
def LinuxSelect (s : State X) : Action → Prop
  | .record (.select o left) => left ≤ s.timeoutUsec ∧ (o = .timeout → left = 0)
  | _ => True

instance (s : State X) : (a : Action) → Decidable (LinuxSelect s a)
  | .record (.select _ _) => inferInstanceAs (Decidable (_ ∧ _))
  | .caller _ | .buffer _ | .tick _ => isTrue trivial
  | .record .clear | .record .stamp | .record .setup | .record .load | .record .elapsedNow
  | .record .elapsedCheck | .record (.read _) | .record .escFlag | .record .escTime
  | .record .keysym | .record .updateKey | .record .store | .record .joinBuffer => isTrue trivial

/-- The timeout that the next call gets. -/
def State.nextTimeout (s : State X) : Nat :=
  if s.record.preparing then 10 * 1000 else s.timeoutUsec

theorem nextTimeout_of_preparing (pc : s.record.preparing = true) :
    s.nextTimeout = 10 * 1000 := if_pos pc

theorem nextTimeout_of_not_preparing (pc : s.record.preparing = false) :
    s.nextTimeout = s.timeoutUsec := if_neg (by simp [pc])

theorem not_preparing_of_routine {pc : RecordPc} (h : pc.routine = true) :
    pc.preparing = false := by
  cases pc <;> first | rfl | cases h

theorem nextTimeout_caller {a : CallerAction} (other : a ≠ .spawn) (move : CallerMove cfg s a s') :
    s'.nextTimeout = s.nextTimeout := by
  cases move with
  | spawn pc free => exact absurd rfl other
  | stopJoin pc joinable ended => simp [State.nextTimeout, ended, RecordPc.preparing, State.note]
  | destroyJoin pc ended => simp [State.nextTimeout, ended, RecordPc.preparing, State.note]
  | _ => rfl

theorem nextTimeout_record {a : RecordAction} (move : RecordMove cfg s a s') :
    s'.nextTimeout = (timeoutLeft (.record a)).getD s.nextTimeout ∧
    timeoutGiven s (.record a) = (timeoutLeft (.record a)).map fun _ => s.nextTimeout := by
  have loop (r : RecordPc) (before : s.record.preparing = false)
      (routine : r.routine = true) : ({ s with record := r }).nextTimeout = s.nextTimeout := by
    rw [nextTimeout_of_not_preparing before]
    exact nextTimeout_of_not_preparing (not_preparing_of_routine routine)
  have early (t : State X) (before : s.record.preparing = true)
      (next : t.nextTimeout = 10 * 1000) : t.nextTimeout = s.nextTimeout := by
    rw [next]
    exact (nextTimeout_of_preparing before).symm
  cases move with
  | select o left pc =>
    constructor
    · exact nextTimeout_of_not_preparing (not_preparing_of_routine (afterSelect_routine cfg o))
    · rw [nextTimeout_of_not_preparing (by rw [pc]; rfl)]
      rfl
  | clear pc free => exact ⟨early _ (by rw [pc]; rfl) (nextTimeout_of_preparing rfl), rfl⟩
  | stamp pc => exact ⟨early _ (by rw [pc]; rfl) (nextTimeout_of_preparing rfl), rfl⟩
  | setupContinuous pc mode =>
    exact ⟨early _ (by rw [pc]; rfl) (nextTimeout_of_not_preparing rfl), rfl⟩
  | setupFixed pc mode =>
    exact ⟨early _ (by rw [pc]; rfl) (nextTimeout_of_not_preparing rfl), rfl⟩
  | loadStop pc stop => exact ⟨loop _ (by rw [pc]; rfl) (exitLoop_routine cfg), rfl⟩
  | elapsed now pc free late => exact ⟨loop _ (by rw [pc]; rfl) (exitLoop_routine cfg), rfl⟩
  | readEvent d rest ev pc => exact ⟨loop _ (by rw [pc]; rfl) (received_routine ..), rfl⟩
  | readNothing d rest pc => exact ⟨loop _ (by rw [pc]; rfl) (resume_routine rest), rfl⟩
  | escTime rest pc => exact ⟨loop _ (by rw [pc]; rfl) (resume_routine rest), rfl⟩
  | push r rest pc mode free => exact ⟨loop _ (by rw [pc]; rfl) (resume_routine rest), rfl⟩
  | append r rest pc mode => exact ⟨loop _ (by rw [pc]; rfl) (resume_routine rest), rfl⟩
  | _ =>
    constructor
    · simp [State.nextTimeout, RecordPc.preparing, timeoutLeft, *]
    · rfl

/-- A call of `select` gets the timeout that is there, and leaves its own for the next. -/
theorem nextTimeout_step {a : Action} (h : step cfg s a = some s') (other : a ≠ .caller .spawn) :
    s'.nextTimeout = (timeoutLeft a).getD s.nextTimeout ∧
    timeoutGiven s a = (timeoutLeft a).map fun _ => s.nextTimeout := by
  cases (step_move h).2 with
  | caller move => exact ⟨nextTimeout_caller (by rintro rfl; exact other rfl) move, rfl⟩
  | record move => exact nextTimeout_record move
  | buffer move => cases move <;> exact ⟨rfl, rfl⟩
  | tick t => exact ⟨rfl, rfl⟩

theorem timeouts_cons {a : Action} (h : run (step cfg) s (a :: as) = some s')
    (single : .caller .spawn ∉ a :: as) :
    ∃ t, step cfg s a = some t ∧ run (step cfg) t as = some s' ∧ .caller .spawn ∉ as ∧
      t.nextTimeout = (timeoutLeft a).getD s.nextTimeout ∧
      timeoutGiven s a = (timeoutLeft a).map (fun _ => s.nextTimeout) ∧
      timeouts cfg s (a :: as) = (timeoutGiven s a).toList ++ timeouts cfg t as := by
  obtain ⟨t, stepped, rest⟩ := Option.bind_eq_some_iff.mp h
  have other : a ≠ .caller .spawn := by
    rintro rfl
    exact single List.mem_cons_self
  obtain ⟨next, here⟩ := nextTimeout_step stepped other
  have later : Action.caller .spawn ∉ as := fun inside => single (List.mem_cons_of_mem a inside)
  refine ⟨t, stepped, rest, later, next, here, ?_⟩
  simp only [timeouts, stepped]

/-- Each call of `select` gets what the call before it left. -/
theorem timeouts_eq (h : run (step cfg) s as = some s') (single : .caller .spawn ∉ as) :
    timeouts cfg s as = (s.nextTimeout :: as.filterMap timeoutLeft).dropLast := by
  induction as generalizing s with
  | nil => rfl
  | cons a as ih =>
    obtain ⟨t, -, rest, later, next, here, given⟩ := timeouts_cons h single
    rw [given, here, ih rest later, next]
    cases polled : timeoutLeft a with
    | none => simp [polled]
    | some n => simp [polled]

/-- Every call of a session gets the 10 ms exactly if each call but the last leaves them whole. -/
theorem timeouts_whole_iff (begins : s.record = .clearing) (h : run (step cfg) s as = some s')
    (single : .caller .spawn ∉ as) :
    (∀ usec ∈ timeouts cfg s as, usec = 10 * 1000) ↔
      ∀ usec ∈ (as.filterMap timeoutLeft).dropLast, usec = 10 * 1000 := by
  rw [timeouts_eq h single, nextTimeout_of_preparing (by rw [begins]; rfl)]
  cases as.filterMap timeoutLeft with
  | nil => simp
  | cons n rest => simp

/-- A call that is ready at once, and a call that nothing ends. -/
def busyRounds : List Action :=
  [.record .clear, .record .stamp, .record .setup, .record .load,
   .record (.select (.ready [3]) 10000), .record (.read .nothing), .record .load,
   .record (.select .timeout 0)]

theorem busy_rounds_whole : ∃ s s' : State Unit,
    run (step (keyboardRecorder true 30000)) (initial (keyboardRecorder true 30000) (some ()) 0)
      (enterLoop.take 2) = some s ∧
    run (step (keyboardRecorder true 30000)) s busyRounds = some s' ∧
    ∀ usec ∈ timeouts (keyboardRecorder true 30000) s busyRounds, usec = 10 * 1000 :=
  ⟨_, _, Option.eq_some_of_isSome (by decide), Option.eq_some_of_isSome (by decide),
    (timeouts_whole_iff (by decide) (Option.eq_some_of_isSome (by decide)) (by decide)).mpr
      (by decide)⟩

/-- Two calls that nothing ends. -/
def idleRounds : List Action :=
  [.record .clear, .record .stamp, .record .setup, .record .load,
   .record (.select .timeout 0), .record .load, .record (.select .timeout 0)]

/-- The second call does not wait. -/
theorem idle_rounds_spent : ∃ s s' : State Unit,
    run (step (keyboardRecorder true 30000)) (initial (keyboardRecorder true 30000) (some ()) 0)
      (enterLoop.take 2) = some s ∧
    s.record = .clearing ∧
    run (step (keyboardRecorder true 30000)) s idleRounds = some s' ∧
    .caller .spawn ∉ idleRounds ∧
    Along (step (keyboardRecorder true 30000)) LinuxSelect s idleRounds ∧
    timeouts (keyboardRecorder true 30000) s idleRounds = [10 * 1000, 0] ∧
    ¬ ∀ usec ∈ timeouts (keyboardRecorder true 30000) s idleRounds, usec = 10 * 1000 :=
  ⟨_, _, Option.eq_some_of_isSome (by decide), by decide, Option.eq_some_of_isSome (by decide),
    by decide, by decide, by decide, by decide⟩

theorem timeoutLeft_le {a : Action} (linux : LinuxSelect s a) {n : Nat} (polled : timeoutLeft a = some n) :
    ∃ usec, timeoutGiven s a = some usec ∧ n ≤ usec := by
  cases a with
  | record a =>
    cases a with
    | select o left =>
      cases polled
      exact ⟨s.timeoutUsec, rfl, linux.1⟩
    | _ => cases polled
  | _ => cases polled

/-- Once a call of a session has left nothing, every later one returns at once. -/
theorem timeouts_spent (h : run (step cfg) s as = some s') (single : .caller .spawn ∉ as)
    (linux : Along (step cfg) LinuxSelect s as) (spent : s.nextTimeout = 0) :
    ∀ usec ∈ timeouts cfg s as, usec = 0 := by
  induction as generalizing s with
  | nil => simp [timeouts]
  | cons a as ih =>
    obtain ⟨t, stepped, rest, later, next, here, given⟩ := timeouts_cons h single
    have still : t.nextTimeout = 0 := by
      cases polled : timeoutLeft a with
      | none => simpa [polled, spent] using next
      | some n =>
        obtain ⟨usec, passed, le⟩ := timeoutLeft_le linux.1 polled
        rw [here, polled, Option.map_some, Option.some.injEq, spent] at passed
        rw [next, polled, Option.getD_some]
        omega
    intro usec inside
    simp only [given, here, List.mem_append, Option.mem_toList, Option.map_eq_some_iff] at inside
    rcases inside with ⟨n, -, rfl⟩ | inside
    · exact spent
    · exact ih rest later (linux.2 t stepped) still usec inside

end TestRunner.Recorder
