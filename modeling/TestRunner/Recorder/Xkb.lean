import TestRunner.Recorder.Moves
import TestRunner.Resources
import Mathlib.Data.List.Induction

/-! The xkb objects of a recorder from its constructor to its destructor, as resources. -/
namespace TestRunner.Recorder

open Resources (Op Life)

variable {X : Type} {cfg : Config X} {s s' : State X}

inductive XkbObject where
  | ctx | keymap | state
  deriving DecidableEq

/-- What libxkbcommon gives for each of the objects that are asked for. -/
structure Made (X : Type) where
  ctx : Bool
  keymap : Bool
  state : Option X

/-- The calls of `setup_xkb`, and the state that is kept. -/
def setupXkb (made : Made X) : List (Op XkbObject) × Option X :=
  if !made.ctx then ([], none)
  else if !made.keymap then ([.acquire .ctx, .use .ctx, .release .ctx], none)
  else match made.state with
    | none => ([.acquire .ctx, .use .ctx, .acquire .keymap, .use .keymap, .release .keymap,
        .release .ctx], none)
    | some x => ([.acquire .ctx, .use .ctx, .acquire .keymap, .use .keymap, .acquire .state], some x)

def XkbRef.stage : XkbRef X → Life
  | .null => .unborn
  | .live _ => .live
  | .released => .dead

def State.stage (s : State X) : XkbObject → Life
  | .ctx => s.mXkbCtx.stage
  | .keymap => s.mXkbKeymap.stage
  | .state => s.mXkbState.stage

/-- A call that is made when the pointer is not null. -/
def State.call (s : State X) (op : Op XkbObject) : List (Op XkbObject) :=
  if s.stage op.handle = .unborn then [] else [op]

/-- The calls that a statement makes. -/
def xkbCalls (s : State X) : Action → List (Op XkbObject)
  | .caller .unrefState => s.call (.release .state)
  | .caller .unrefKeymap => s.call (.release .keymap)
  | .caller .unrefCtx => s.call (.release .ctx)
  | .record .keysym =>
    match s.record with
    | .keysym e _ => if e.resolves then s.call (.use .state) else []
    | _ => []
  | .record .updateKey =>
    match s.record with
    | .updateKey e _ _ => if e.direction.isSome then s.call (.use .state) else []
    | _ => []
  | _ => []

/-- All calls from the constructor on. -/
def xkbTrace (cfg : Config X) (made : Made X) (now : Nat) (as : List Action) :
    List (Op XkbObject) :=
  (setupXkb made).1 ++ collect (step cfg) xkbCalls (initial cfg (setupXkb made).2 now) as

/-- The destructor has passed the object. -/
def CallerPc.passed : CallerPc → XkbObject → Bool
  | .unrefKeymap, h => h = .state
  | .unrefCtx, h => h ≠ .ctx
  | .checkJoinable, _ | .destroyFlag, _ | .destroyStopping, _ | .destroyJoining, _ | .closing, _
  | .destroyed, _ => true
  | _, _ => false

@[simp] theorem stage_live (x : X) : (XkbRef.live x).stage = .live := rfl
@[simp] theorem stage_null : (XkbRef.null : XkbRef X).stage = .unborn := rfl
@[simp] theorem stage_released : (XkbRef.released : XkbRef X).stage = .dead := rfl

theorem stage_unref (r : XkbRef X) :
    r.unref.stage = if r.stage = .live then .dead else r.stage := by
  cases r <;> rfl

/-- What a statement does to the objects, with its calls. -/
inductive XkbMove (s s' : State X) : List (Op XkbObject) → Prop where
  | unref (o : XkbObject) (here : s.caller.passed o = false)
      (passed : ∀ o', s'.caller.passed o' = (s.caller.passed o' || decide (o' = o)))
      (own : s'.stage o = if s.stage o = .live then .dead else s.stage o)
      (others : ∀ o' ≠ o, s'.stage o' = s.stage o') (fault : s'.fault = s.fault) :
      XkbMove s s' (s.call (.release o))
  | use (passed : s'.caller.passed = s.caller.passed) (stages : s'.stage = s.stage)
      (alive : s.stage .state ≠ .dead) (fault : s'.fault = s.fault) :
      XkbMove s s' (s.call (.use .state))
  | misuse (passed : s'.caller.passed = s.caller.passed) (stages : s'.stage = s.stage)
      (dead : s.stage .state = .dead) (fault : s'.fault = some .releasedXkb) :
      XkbMove s s' [.use .state]
  | other (passed : s'.caller.passed = s.caller.passed) (stages : s'.stage = s.stage)
      (fault : s'.fault = s.fault ∨ s'.fault = some .terminate) : XkbMove s s' []

theorem xkbMove_caller {a : CallerAction} (m : CallerMove cfg s a s') :
    XkbMove s s' (xkbCalls s (.caller a)) := by
  cases m with
  | unrefState pc =>
    refine .unref .state (by simp [pc, CallerPc.passed]) ?_ (stage_unref _) ?_ rfl
    · intro o
      cases o <;> simp [pc, CallerPc.passed]
    · intro o other
      cases o <;> first | rfl | exact absurd rfl other
  | unrefKeymap pc =>
    refine .unref .keymap (by simp [pc, CallerPc.passed]) ?_ (stage_unref _) ?_ rfl
    · intro o
      cases o <;> simp [pc, CallerPc.passed]
    · intro o other
      cases o <;> first | rfl | exact absurd rfl other
  | unrefCtx pc =>
    refine .unref .ctx (by simp [pc, CallerPc.passed]) ?_ (stage_unref _) ?_ rfl
    · intro o
      cases o <;> simp [pc, CallerPc.passed]
    · intro o other
      cases o <;> first | rfl | exact absurd rfl other
  | terminate => exact .other rfl (funext fun o => by cases o <;> rfl) (.inr rfl)
  | _ =>
    refine .other (funext fun o => ?_) (funext fun o => by cases o <;> rfl) (.inl rfl)
    cases o <;> simp [State.note, CallerPc.passed, *]

theorem xkbMove_record {a : RecordAction} (m : RecordMove cfg s a s') :
    XkbMove s s' (xkbCalls s (.record a)) := by
  cases m with
  | keysym e rest x pc resolves live =>
    have calls : xkbCalls s (.record .keysym) = s.call (.use .state) := by
      simp [xkbCalls, pc, resolves]
    rw [calls]
    exact .use rfl (funext fun o => by cases o <;> rfl) (by simp [State.stage, live]) rfl
  | keysymSkip e rest pc skip =>
    have calls : xkbCalls s (.record .keysym) = [] := by
      rcases skip with other | null
      · simp [xkbCalls, pc, other]
      · simp [xkbCalls, pc, State.call, Op.handle, State.stage, null]
    rw [calls]
    exact .other rfl (funext fun o => by cases o <;> rfl) (.inl rfl)
  | updateKey e sym rest d x pc dir live =>
    have calls : xkbCalls s (.record .updateKey) = s.call (.use .state) := by
      simp [xkbCalls, pc, dir]
    rw [calls]
    refine .use rfl (funext fun o => ?_) (by simp [State.stage, live]) rfl
    cases o <;> simp [State.stage, live]
  | updateSkip e sym rest pc skip =>
    have calls : xkbCalls s (.record .updateKey) = [] := by
      rcases skip with other | null
      · simp [xkbCalls, pc, other]
      · simp [xkbCalls, pc, State.call, Op.handle, State.stage, null]
    rw [calls]
    exact .other rfl (funext fun o => by cases o <;> rfl) (.inl rfl)
  | keysymReleased e rest pc resolves dead =>
    have calls : xkbCalls s (.record .keysym) = [.use .state] := by
      simp [xkbCalls, pc, resolves, State.call, Op.handle, State.stage, dead]
    rw [calls]
    exact .misuse rfl (funext fun o => by cases o <;> rfl) (by simp [State.stage, dead]) rfl
  | updateReleased e sym rest d pc dir dead =>
    have calls : xkbCalls s (.record .updateKey) = [.use .state] := by
      simp [xkbCalls, pc, dir, State.call, Op.handle, State.stage, dead]
    rw [calls]
    exact .misuse rfl (funext fun o => by cases o <;> rfl) (by simp [State.stage, dead]) rfl
  | _ => exact .other rfl (funext fun o => by cases o <;> rfl) (.inl rfl)

theorem xkbMove {a : Action} (move : Move cfg s a s') : XkbMove s s' (xkbCalls s a) := by
  cases move with
  | caller m => exact xkbMove_caller m
  | record m => exact xkbMove_record m
  | buffer m => cases m <;> exact .other rfl (funext fun o => by cases o <;> rfl) (.inl rfl)
  | tick t => exact .other rfl (funext fun o => by cases o <;> rfl) (.inl rfl)

/-- An object is live until the destructor passes it, if there is one. -/
def Staged (s : State X) : Prop :=
  ∀ o, s.stage o = .unborn ∨ s.stage o = if s.caller.passed o then .dead else .live

variable {calls : List (Op XkbObject)}

theorem staged_move (move : XkbMove s s' calls) (h : Staged s) : Staged s' := by
  intro o
  cases move with
  | unref o' here passed own others =>
    rw [passed]
    by_cases same : o = o'
    · subst same
      have now := h o
      rw [here] at now
      rcases now with none | live
      · simp [own, none]
      · simp [own, live]
    · simpa [others o same, same] using h o
  | use passed stages | misuse passed stages | other passed stages =>
    rw [passed, stages]
    exact h o

/-- Where the resources stand: as the constructor has left those that there is no pointer to. -/
def State.lives (s : State X) (before : XkbObject → Life) (o : XkbObject) : Life :=
  if s.stage o = .unborn then before o else s.stage o

variable {before : XkbObject → Life}

theorem lives_congr (stages : s'.stage = s.stage) : s'.lives before = s.lives before := by
  funext o
  rw [State.lives, State.lives, stages]

/-- Every call but a misuse is in its turn. -/
theorem lives_move (h : Staged s) (move : XkbMove s s' calls)
    (safe : s'.fault ≠ some .releasedXkb) :
    run Resources.step (s.lives before) calls = some (s'.lives before) := by
  cases move with
  | unref o here passed own others =>
    have now := h o
    rw [here] at now
    rcases now with none | live
    · have same : s'.stage = s.stage := by
        funext o'
        by_cases this : o' = o
        · simp [this, own, none]
        · exact others o' this
      simp [State.call, Op.handle, none, run, lives_congr same]
    · have alive : s.lives before o = .live := by simp [State.lives, live]
      have next : s'.lives before = Function.update (s.lives before) o .dead := by
        funext o'
        by_cases this : o' = o
        · simp [this, State.lives, own, live]
        · simp [State.lives, others o' this, this]
      simp [State.call, Op.handle, live, run, Resources.step_release alive, next]
  | use passed stages alive =>
    rw [lives_congr stages]
    cases stage : s.stage .state with
    | unborn => simp [State.call, Op.handle, stage, run]
    | live =>
      have held : s.lives before .state = .live := by simp [State.lives, stage]
      simp [State.call, Op.handle, stage, run, Resources.step_use held]
    | dead => exact absurd stage alive
  | misuse passed stages dead fault => exact absurd fault safe
  | other passed stages => exact congrArg some (lives_congr stages).symm

theorem misuse_move (move : XkbMove s s' calls) (ok : s.fault = none)
    (fault : s'.fault = some .releasedXkb) :
    calls = [.use .state] ∧ s'.stage = s.stage ∧ s.stage .state = .dead := by
  cases move with
  | misuse passed stages dead => exact ⟨rfl, stages, dead⟩
  | other passed stages fault' => simp_all
  | unref o here passed own others fault' => simp_all
  | use passed stages alive fault' => simp_all

theorem unborn_move (move : XkbMove s s' calls) {o : XkbObject} (none : s'.stage o = .unborn) :
    s.stage o = .unborn := by
  cases move with
  | unref o' here passed own others =>
    by_cases same : o = o'
    · subst same
      rw [own] at none
      split at none
      · cases none
      · exact none
    · exact others o same ▸ none
  | use passed stages | misuse passed stages | other passed stages => exact stages ▸ none

/-- What the constructor leaves is live, and there is a pointer to it. -/
theorem lives_setup (cfg : Config X) (made : Made X) (now : Nat) : ∃ before,
    run Resources.step (fun _ => .unborn) (setupXkb made).1 = some before ∧
    (initial cfg (setupXkb made).2 now).lives before = before ∧
    Staged (initial cfg (setupXkb made).2 now) ∧
    ∀ o, (initial cfg (setupXkb made).2 now).stage o = .unborn → before o ≠ .live := by
  obtain ⟨ctx, keymap, state⟩ := made
  cases ctx <;> cases keymap <;> cases state <;>
    refine ⟨_, rfl, funext fun o => ?_, fun o => ?_, fun o none => ?_⟩ <;> cases o <;>
    first | rfl | exact .inl rfl | exact .inr rfl | (cases none <;> nofun)

/-- The calls of a run are those of a run of the resources, until one comes after the release. -/
def Accounted (before : XkbObject → Life) (trace : List (Op XkbObject)) (s : State X) : Prop :=
  (s.fault ≠ some .releasedXkb ∧
    run Resources.step (fun _ => .unborn) trace = some (s.lives before)) ∨
  (s.fault = some .releasedXkb ∧ s.stage .state = .dead ∧ ∃ front, trace = front ++ [.use .state] ∧
    run Resources.step (fun _ => .unborn) front = some (s.lives before))

theorem accounted_run {made : Made X} {now : Nat} {as : List Action}
    (reached : run (step cfg) (initial cfg (setupXkb made).2 now) as = some s) : ∃ before,
    Accounted before (xkbTrace cfg made now as) s ∧ Staged s ∧
    ∀ o, s.stage o = .unborn → before o ≠ .live := by
  obtain ⟨before, made', same, staged, free⟩ := lives_setup cfg made now
  refine ⟨before, ?_⟩
  induction as using List.reverseRecOn generalizing s with
  | nil =>
    cases Option.some.inj reached
    refine ⟨.inl ⟨nofun, ?_⟩, staged, free⟩
    rw [xkbTrace, collect, List.append_nil, made', same]
  | append_singleton as a ih =>
    obtain ⟨t, front, stepped⟩ := run_snoc.mp reached
    obtain ⟨fault, move⟩ := step_move stepped
    obtain ⟨accounted, staged, free⟩ := ih front
    obtain ⟨-, ran⟩ := accounted.resolve_right (by simp [fault])
    have moved := xkbMove move
    have trace : xkbTrace cfg made now (as ++ [a]) = xkbTrace cfg made now as ++ xkbCalls t a := by
      simp [xkbTrace, collect_append _ front, collect, stepped]
    refine ⟨?_, staged_move moved staged, ?_⟩
    · rw [trace]
      by_cases safe : s.fault = some .releasedXkb
      · obtain ⟨calls, stages, dead⟩ := misuse_move moved fault safe
        refine .inr ⟨safe, stages ▸ dead, _, by rw [calls], ?_⟩
        rw [ran, lives_congr stages]
      · refine .inl ⟨safe, ?_⟩
        rw [run_append, ran]
        exact lives_move staged moved safe
    · exact fun o none => free o (unborn_move moved none)

theorem count_release {trace front : List (Op XkbObject)}
    (same : trace = front ∨ trace = front ++ [.use .state]) (o : XkbObject) :
    trace.count (.release o) = front.count (.release o) ∧
      (.acquire o ∈ trace ↔ .acquire o ∈ front) := by
  rcases same with rfl | rfl
  · exact ⟨rfl, Iff.rfl⟩
  · simp [List.count_append]

theorem Accounted.front {trace : List (Op XkbObject)} (h : Accounted before trace s) : ∃ front,
    (trace = front ∨ trace = front ++ [.use .state]) ∧
    run Resources.step (fun _ => .unborn) front = some (s.lives before) := by
  rcases h with ⟨-, ran⟩ | ⟨-, -, front, split, ran⟩
  · exact ⟨trace, .inl rfl, ran⟩
  · exact ⟨front, .inr split, ran⟩

theorem Accounted.unused_iff {trace : List (Op XkbObject)} (h : Accounted before trace s) :
    s.fault = some .releasedXkb ↔ ¬ Resources.Unused trace := by
  rcases h with ⟨safe, ran⟩ | ⟨fault, dead, front, rfl, ran⟩
  · exact iff_of_false safe (not_not.mpr (Resources.unused_of_run ran))
  · refine iff_of_true fault fun unused => ?_
    have counts := (Resources.run_counts (h := .state) ran).2
    have released : .release .state ∈ front := by
      apply List.count_pos_iff.mp
      simp only [State.lives, dead, reduceCtorEq, if_false, Resources.Life.gone] at counts
      omega
    exact (List.pairwise_append.mp unused).2.2 _ released (.use .state)
      (by simp) .state rfl rfl

/-- A recorder whose xkb objects are made, or fail to be made at any of them, releases each of them
at most once, all of them before its end, and uses one that it has released only by the fault. -/
theorem xkb_released_once (cfg : Config X) (made : Made X) (now : Nat) (as : List Action)
    (s : State X) (reached : run (step cfg) (initial cfg (setupXkb made).2 now) as = some s) :
    (∀ o, (xkbTrace cfg made now as).count (.release o) ≤ 1) ∧
    (s.caller = .destroyed → Resources.ReleasedOnce (xkbTrace cfg made now as)) ∧
    (s.fault = some .releasedXkb ↔ ¬ Resources.Unused (xkbTrace cfg made now as)) := by
  obtain ⟨before, accounted, staged, free⟩ := accounted_run reached
  obtain ⟨front, same, ran⟩ := accounted.front
  refine ⟨fun o => ?_, fun ended o acquired => ?_, accounted.unused_iff⟩
  · have counts := (Resources.run_counts (h := o) ran).2
    rw [(count_release same o).1]
    have most : (s.lives before o).gone ≤ 1 := by cases s.lives before o <;> decide
    omega
  · obtain ⟨count, inside⟩ := count_release same o
    rw [count]
    refine (Resources.releasedOnce_iff ran).mpr (fun o => ?_) o (inside.mp acquired)
    have now := staged o
    simp only [ended, CallerPc.passed, if_true] at now
    rcases now with none | dead
    · simpa [State.lives, none] using free o none
    · simp [State.lives, dead]

/-- A session whose length passes, and then the destructor. -/
def elapsedLife : List Action :=
  elapsedSession ++ [.caller .unrefState, .caller .unrefKeymap, .caller .unrefCtx,
    .caller .checkJoinable, .caller .destroyFlag, .caller .destroyTime, .caller .destroyJoin,
    .caller .close]

theorem xkb_released_once_elapsed :
    (∀ o, (xkbTrace (keyboardRecorder false 30000) ⟨true, true, some ()⟩ 0 elapsedLife).count
      (.release o) ≤ 1) ∧
    Resources.ReleasedOnce
      (xkbTrace (keyboardRecorder false 30000) ⟨true, true, some ()⟩ 0 elapsedLife) := by
  obtain ⟨most, once, -⟩ := xkb_released_once (keyboardRecorder false 30000) ⟨true, true, some ()⟩ 0
    elapsedLife _ (Option.eq_some_of_isSome (by decide))
  exact ⟨most, once (by decide)⟩

end TestRunner.Recorder
