import TestRunner.Recorder.Lifecycle

/-! The destructor unreferences the xkb objects before it stops the thread. Where the
thread is at that moment decides whether it can use them afterwards. -/
namespace TestRunner.Recorder

variable {X : Type} {cfg : Config X} {s s' : State X}

/-- A keyboard is left to be read, in this round or in one that follows it. -/
def State.keyInRound (s : State X) (todo : List InDevice) : Bool :=
  todo.any InDevice.isKeyboard || (!s.mStop && s.devicesToRecord.any InDevice.isKeyboard)

/-- The thread can come to resolve a keysym without a new session. -/
def keyAhead (cfg : Config X) (s : State X) : Bool :=
  let selected := s.devicesToRecord.any InDevice.isKeyboard
  let monitored := (monitored cfg.availableDevices s.mDeviceMask).any InDevice.isKeyboard
  match s.record with
  | .absent | .joinBuffer | .returned | .read [] => false
  | .clearing => monitored
  | .stamping | .setup => !s.mStop && monitored
  | .loop => !s.mStop && selected
  | .elapsedNow | .select => selected
  | .elapsedCheck now => now - s.mStartTime < cfg.length && selected
  | .escFlag todo => todo.any InDevice.isKeyboard
  | .read todo | .escTime todo | .store _ todo => s.keyInRound todo
  | .keysym e todo => e.resolves || s.keyInRound todo
  | .updateKey e _ todo => e.direction.isSome || s.keyInRound todo

/-- No step uses a released xkb object, and none is released while the thread can still
come to a key. -/
def XkbSafe (cfg : Config X) (s : State X) : Prop :=
  ∀ as t, run (step cfg) s as = some t →
    t.fault ≠ some .releasedXkb ∧ (keyAhead cfg t = true → t.mXkbState ≠ .released)

def CallerPc.destructing : CallerPc → Bool
  | .unrefKeymap | .unrefCtx | .checkJoinable | .destroyFlag | .destroyStopping
  | .destroyJoining | .closing | .destroyed => true
  | _ => false

@[simp] theorem CallerPc.destructing_values :
    CallerPc.idle.destructing = false ∧ CallerPc.spawning.destructing = false ∧
    CallerPc.stopping.destructing = false ∧ CallerPc.joining.destructing = false ∧
    CallerPc.unrefKeymap.destructing = true ∧ CallerPc.unrefCtx.destructing = true ∧
    CallerPc.checkJoinable.destructing = true ∧ CallerPc.destroyFlag.destructing = true ∧
    CallerPc.destroyStopping.destructing = true ∧ CallerPc.destroyJoining.destructing = true ∧
    CallerPc.closing.destructing = true ∧ CallerPc.destroyed.destructing = true := by decide

section NoKey

theorem keyAhead_resume {todo : List InDevice} (pc : s.record = resume todo) :
    keyAhead cfg s = s.keyInRound todo := by
  cases todo <;> simp [keyAhead, State.keyInRound, pc, resume]

theorem keyAhead_exitLoop (pc : s.record = cfg.exitLoop) : keyAhead cfg s = false := by
  unfold Config.exitLoop at pc
  split at pc <;> simp [keyAhead, pc]

theorem keyAhead_congr (record : s'.record = s.record) (devices : s'.devicesToRecord = s.devicesToRecord)
    (mask : s'.mDeviceMask = s.mDeviceMask) (start : s'.mStartTime = s.mStartTime)
    (stop : s.mStop = true → s'.mStop = true) (none : keyAhead cfg s = false) :
    keyAhead cfg s' = false := by
  unfold keyAhead State.keyInRound at *
  simp only [record, devices, mask, start] at *
  cases old : s.mStop with
  | true => rw [stop old]; rwa [old] at none
  | false =>
    rw [old] at none
    split at none <;> simp_all

theorem keyAhead_step {a : Action} (destructing : s.caller.destructing = true)
    (move : Move cfg s a s') (none : keyAhead cfg s = false) :
    s'.caller.destructing = true ∧ keyAhead cfg s' = false ∧ s'.fault = s.fault := by
  cases move with
  | caller m =>
    cases m with
    | destroyJoin => exact ⟨rfl, rfl, rfl⟩
    | unrefKeymap | unrefCtx | checkJoinable | checkFree | destroyFlag | destroyTime | close =>
      exact ⟨rfl, keyAhead_congr (s := s) rfl rfl rfl rfl (by simp [State.note]) none, rfl⟩
    | _ => simp_all
  | record m =>
    refine ⟨by cases m <;> exact destructing, ?_⟩
    cases m with
    | loadStop | elapsed => exact ⟨keyAhead_exitLoop rfl, rfl⟩
    | select o left pc =>
      have selected : s.devicesToRecord.any InDevice.isKeyboard = false := by
        simpa [keyAhead, pc] using none
      refine ⟨?_, rfl⟩
      cases o with
      | timeout => simp only [keyAhead, afterSelect, selected, Bool.and_false]
      | error => exact keyAhead_exitLoop rfl
      | ready fds =>
        refine (keyAhead_resume rfl).trans ?_
        simp only [State.keyInRound, selected, Bool.and_false, Bool.or_false]
        simp only [List.any_eq_false] at selected ⊢
        exact fun d mem => selected d (List.mem_of_mem_filter mem)
    | readEvent d rest ev pc =>
      refine ⟨?_, rfl⟩
      simp only [keyAhead, State.keyInRound, pc, List.any_cons, Bool.or_eq_false_iff] at none
      unfold received
      split
      · simpa [keyAhead] using none.1.2
      · simp_all [keyAhead, State.keyInRound, Reading.resolves, InDevice.isKeyboard]
    | readNothing | escTime | push | append =>
      refine ⟨(keyAhead_resume rfl).trans ?_, rfl⟩
      simp_all [State.note, keyAhead, State.keyInRound]
    | _ => simp_all [State.note, keyAhead, State.keyInRound]
  | buffer m => cases m <;> exact ⟨destructing, none, rfl⟩
  | tick t => exact ⟨destructing, none, rfl⟩

end NoKey

def Misuses (cfg : Config X) (s : State X) : Prop :=
  ∃ as t, run (step cfg) s as = some t ∧ t.fault = some .releasedXkb

section Misuse

/-- The destructor has unreferenced the keyboard state and holds no lock. -/
structure Dead (s : State X) : Prop where
  fault : s.fault = none
  caller : s.caller.holdsStop = false
  released : s.mXkbState = .released

theorem misuses_of_move (dead : Dead s) {a : Action} (move : Move cfg s a s')
    (h : Misuses cfg s') : Misuses cfg s := by
  obtain ⟨as, t, reached, fault⟩ := h
  exact ⟨a :: as, t, by simp [run, move_step dead.fault move, reached], fault⟩

theorem misuses_of_fault (dead : Dead s) {a : Action}
    (move : Move cfg s a { s with fault := some .releasedXkb }) : Misuses cfg s :=
  misuses_of_move dead move ⟨[], _, rfl, rfl⟩

theorem misuses_keysym (dead : Dead s) (e : Reading) (todo : List InDevice)
    (pc : s.record = .keysym e todo) (resolves : e.resolves = true) : Misuses cfg s :=
  misuses_of_fault dead (.record (.keysymReleased e todo pc resolves dead.released))

def keyPress : InputEvent := ⟨evKey, 30, 1⟩

theorem misuses_todo (dead : Dead s) {todo : List InDevice} (pc : s.record = resume todo)
    (key : todo.any InDevice.isKeyboard = true) : Misuses cfg s := by
  induction todo generalizing s with
  | nil => cases key
  | cons d rest ih =>
    by_cases keyboard : d.isKeyboard = true
    · refine misuses_of_move dead (.record (.readEvent d rest keyPress pc)) ?_
      refine misuses_keysym ⟨dead.fault, dead.caller, dead.released⟩ ⟨s.clock, d, keyPress⟩ rest rfl ?_
      simpa [Reading.resolves, InDevice.isKeyboard, keyPress] using keyboard
    · refine misuses_of_move dead (.record (.readNothing d rest pc)) ?_
      refine ih ⟨dead.fault, dead.caller, dead.released⟩ rfl ?_
      simpa [keyboard] using key

theorem misuses_select (dead : Dead s) (pc : s.record = .select)
    (selected : s.devicesToRecord.any InDevice.isKeyboard = true) : Misuses cfg s := by
  obtain ⟨d, mem, keyboard⟩ := List.any_eq_true.mp selected
  refine misuses_of_move dead (.record (.select (.ready [d.fd]) 0 pc)) ?_
  refine misuses_todo ⟨dead.fault, dead.caller, dead.released⟩ rfl ?_
  exact List.any_eq_true.mpr ⟨d, List.mem_filter.mpr ⟨mem, by simp⟩, keyboard⟩

theorem misuses_elapsedCheck (dead : Dead s) (now : Int) (pc : s.record = .elapsedCheck now)
    (early : now - s.mStartTime < cfg.length)
    (selected : s.devicesToRecord.any InDevice.isKeyboard = true) : Misuses cfg s := by
  have free : s.stopMtxFree = true := by simp [State.stopMtxFree, dead.caller, pc]
  refine misuses_of_move dead (.record (.notElapsed now pc free (not_le.mpr early))) ?_
  exact misuses_select ⟨dead.fault, dead.caller, dead.released⟩ rfl selected

theorem misuses_elapsedNow (dead : Dead s) (pc : s.record = .elapsedNow)
    (selected : s.devicesToRecord.any InDevice.isKeyboard = true) : Misuses cfg s := by
  refine misuses_of_move dead (.tick (s.mStartTime + cfg.length - 1)) ?_
  refine misuses_of_move ⟨dead.fault, dead.caller, dead.released⟩ (.record (.elapsedNow pc)) ?_
  refine misuses_elapsedCheck ⟨dead.fault, dead.caller, dead.released⟩ _ rfl ?_ selected
  show s.mStartTime + cfg.length - 1 - s.mStartTime < cfg.length
  omega

theorem misuses_loop (dead : Dead s) (pc : s.record = .loop) (go : s.mStop = false)
    (selected : s.devicesToRecord.any InDevice.isKeyboard = true) : Misuses cfg s := by
  cases mode : cfg.mContinuous with
  | true =>
    refine misuses_of_move dead (.record (.loadSelect pc go mode)) ?_
    exact misuses_select ⟨dead.fault, dead.caller, dead.released⟩ rfl selected
  | false =>
    refine misuses_of_move dead (.record (.loadElapsed pc go mode)) ?_
    exact misuses_elapsedNow ⟨dead.fault, dead.caller, dead.released⟩ rfl selected

theorem misuses_resume (dead : Dead s) (todo : List InDevice) (pc : s.record = resume todo)
    (key : s.keyInRound todo = true) : Misuses cfg s := by
  rw [State.keyInRound, Bool.or_eq_true, Bool.and_eq_true] at key
  rcases key with inRound | ⟨go, selected⟩
  · exact misuses_todo dead pc inRound
  · induction todo generalizing s with
    | nil => exact misuses_loop dead pc (by simpa using go) selected
    | cons d rest ih =>
      refine misuses_of_move dead (.record (.readNothing d rest pc)) ?_
      exact ih ⟨dead.fault, dead.caller, dead.released⟩ rfl go selected

theorem misuses_store (dead : Dead s) (r : InputRecord) (todo : List InDevice)
    (pc : s.record = .store r todo) (free : s.bufMtxFree = true) (key : s.keyInRound todo = true) :
    Misuses cfg s := by
  cases mode : cfg.mContinuous with
  | true =>
    refine misuses_of_move dead (.record (.push r todo pc mode free)) ?_
    exact misuses_resume ⟨dead.fault, dead.caller, dead.released⟩ todo rfl key
  | false =>
    refine misuses_of_move dead (.record (.append r todo pc mode)) ?_
    exact misuses_resume ⟨dead.fault, dead.caller, dead.released⟩ todo rfl key

theorem misuses_store_locked (dead : Dead s) (r : InputRecord) (todo : List InDevice)
    (pc : s.record = .store r todo) (key : s.keyInRound todo = true) : Misuses cfg s := by
  have write : ∀ (s : State X) v v', Dead s → s.record = .store r todo →
      s.keyInRound todo = true → s.buffer = .write v v' → Misuses cfg s := by
    intro s v v' dead pc key buffer
    refine misuses_of_move dead (.buffer (.write v v' buffer)) ?_
    exact misuses_store ⟨dead.fault, dead.caller, dead.released⟩ r todo pc rfl key
  have header : ∀ (s : State X) v, Dead s → s.record = .store r todo →
      s.keyInRound todo = true → s.buffer = .header v → Misuses cfg s := by
    intro s v dead pc key buffer
    refine misuses_of_move dead (.buffer (.header v buffer)) ?_
    exact write _ _ _ ⟨dead.fault, dead.caller, dead.released⟩ pc key rfl
  cases buffer : s.buffer with
  | openFile v =>
    refine misuses_of_move dead (.buffer (.openFile v buffer)) ?_
    exact header _ _ ⟨dead.fault, dead.caller, dead.released⟩ pc key rfl
  | header v => exact header s v dead pc key buffer
  | write v v' => exact write s v v' dead pc key buffer
  | _ => exact misuses_store dead r todo pc (by simp [State.bufMtxFree, BufferPc.holdsBuf, buffer]) key

theorem misuses_setup (dead : Dead s) (pc : s.record = .setup) (go : s.mStop = false)
    (monitors : (monitored cfg.availableDevices s.mDeviceMask).any InDevice.isKeyboard = true) :
    Misuses cfg s := by
  cases mode : cfg.mContinuous with
  | true =>
    refine misuses_of_move dead (.record (.setupContinuous pc mode)) ?_
    exact misuses_loop ⟨dead.fault, dead.caller, dead.released⟩ rfl go monitors
  | false =>
    refine misuses_of_move dead (.record (.setupFixed pc mode)) ?_
    exact misuses_loop ⟨dead.fault, dead.caller, dead.released⟩ rfl go monitors

theorem misuses_stamping (dead : Dead s) (pc : s.record = .stamping) (go : s.mStop = false)
    (monitors : (monitored cfg.availableDevices s.mDeviceMask).any InDevice.isKeyboard = true) :
    Misuses cfg s := by
  refine misuses_of_move dead (.record (.stamp pc)) ?_
  exact misuses_setup ⟨dead.fault, dead.caller, dead.released⟩ rfl go monitors

theorem misuses_keysym_pc (dead : Dead s) (e : Reading) (todo : List InDevice)
    (pc : s.record = .keysym e todo) (key : (e.resolves || s.keyInRound todo) = true) :
    Misuses cfg s := by
  cases resolves : e.resolves with
  | true => exact misuses_keysym dead e todo pc resolves
  | false =>
    rw [resolves, Bool.false_or] at key
    refine misuses_of_move dead (.record (.keysymSkip e todo pc (.inl resolves))) ?_
    exact misuses_store_locked ⟨dead.fault, dead.caller, dead.released⟩ _ todo rfl key

theorem misuses_updateKey (dead : Dead s) (e : Reading) (sym : UInt32) (todo : List InDevice)
    (pc : s.record = .updateKey e sym todo)
    (key : (e.direction.isSome || s.keyInRound todo) = true) : Misuses cfg s := by
  cases dir : e.direction with
  | some d =>
    exact misuses_of_fault dead (.record (.updateReleased e sym todo d pc dir dead.released))
  | none =>
    rw [dir, Option.isSome_none, Bool.false_or] at key
    refine misuses_of_move dead (.record (.updateSkip e sym todo pc (.inl dir))) ?_
    exact misuses_store_locked ⟨dead.fault, dead.caller, dead.released⟩ _ todo rfl key

theorem misuses_of_keyAhead (dead : Dead s) (key : keyAhead cfg s = true) : Misuses cfg s := by
  have free (calm : s.record.holdsStop = false) : s.stopMtxFree = true := by
    simp [State.stopMtxFree, dead.caller, calm]
  unfold keyAhead at key
  cases pc : s.record with
  | absent | joinBuffer | returned => simp [pc] at key
  | clearing =>
    refine misuses_of_move dead (.record (.clear pc (free (by simp [pc])))) ?_
    exact misuses_stamping ⟨dead.fault, dead.caller, dead.released⟩ rfl rfl (by simpa only [pc] using key)
  | stamping =>
    simp only [pc, Bool.and_eq_true, Bool.not_eq_true'] at key
    exact misuses_stamping dead pc key.1 key.2
  | setup =>
    simp only [pc, Bool.and_eq_true, Bool.not_eq_true'] at key
    exact misuses_setup dead pc key.1 key.2
  | loop =>
    simp only [pc, Bool.and_eq_true, Bool.not_eq_true'] at key
    exact misuses_loop dead pc key.1 key.2
  | elapsedNow => exact misuses_elapsedNow dead pc (by simpa only [pc] using key)
  | elapsedCheck now =>
    simp only [pc, Bool.and_eq_true, decide_eq_true_eq] at key
    exact misuses_elapsedCheck dead now pc key.1 key.2
  | select => exact misuses_select dead pc (by simpa only [pc] using key)
  | read todo =>
    cases todo with
    | nil => simp [pc] at key
    | cons d rest => exact misuses_resume dead (d :: rest) pc (by simpa only [pc] using key)
  | escFlag todo =>
    have inRound : todo.any InDevice.isKeyboard = true := by simpa only [pc] using key
    refine misuses_of_move dead (.record (.escFlag todo pc (free (by simp [pc])))) ?_
    refine misuses_of_move ⟨dead.fault, dead.caller, dead.released⟩ (.record (.escTime todo rfl)) ?_
    exact misuses_todo ⟨dead.fault, dead.caller, dead.released⟩ rfl inRound
  | escTime todo =>
    refine misuses_of_move dead (.record (.escTime todo pc)) ?_
    have inRound : s.keyInRound todo = true := by simpa only [pc] using key
    exact misuses_resume ⟨dead.fault, dead.caller, dead.released⟩ todo rfl inRound
  | keysym e todo => exact misuses_keysym_pc dead e todo pc (by simpa only [pc] using key)
  | updateKey e sym todo =>
    exact misuses_updateKey dead e sym todo pc (by simpa only [pc] using key)
  | store r todo => exact misuses_store_locked dead r todo pc (by simpa only [pc] using key)

end Misuse

theorem safe_of_no_key {as : List Action} (h : run (step cfg) s as = some s')
    (destructing : s.caller.destructing = true) (none : keyAhead cfg s = false) :
    keyAhead cfg s' = false ∧ s'.fault = s.fault := by
  refine (run_invariant (I := fun t => t.caller.destructing = true ∧ keyAhead cfg t = false ∧
    t.fault = s.fault) h ⟨destructing, none, rfl⟩ ?_).2
  rintro a - t u move ⟨destructing, none, fault⟩
  obtain ⟨next, still, same⟩ := keyAhead_step destructing (step_move move).2 none
  exact ⟨next, still, same.trans fault⟩

theorem null_run {as : List Action} (h : run (step cfg) s as = some s')
    (null : s.mXkbState = .null) (fault : s.fault ≠ some .releasedXkb) :
    s'.mXkbState = .null ∧ s'.fault ≠ some .releasedXkb := by
  refine run_invariant (I := fun t => t.mXkbState = .null ∧ t.fault ≠ some .releasedXkb) h
    ⟨null, fault⟩ ?_
  rintro a - t u move ⟨null, fault⟩
  cases (step_move move).2 with
  | caller m => cases m <;> simp_all [State.note, XkbRef.unref]
  | record m => cases m <;> simp_all [State.note]
  | buffer m => cases m <;> simp_all [State.note]
  | tick t => exact ⟨null, fault⟩

/-- Destruction is safe exactly when the thread it finds has no key ahead of it, or there
is no keyboard state. -/
theorem xkb_safe_iff (cfg : Config X) (s s' : State X)
    (h : step cfg s (.caller .unrefState) = some s') :
    XkbSafe cfg s' ↔ s.mXkbState = .null ∨ keyAhead cfg s = false := by
  obtain ⟨fault, move⟩ := step_move h
  cases move with
  | caller m =>
    cases m with
    | unrefState pc =>
      constructor
      · intro safe
        by_contra ahead
        rw [not_or, Bool.not_eq_false] at ahead
        obtain ⟨object, key⟩ := ahead
        have released : s.mXkbState.unref = .released := by
          cases ref : s.mXkbState <;> simp_all [XkbRef.unref]
        have dead : Dead { s with mXkbState := s.mXkbState.unref, caller := .unrefKeymap } :=
          ⟨fault, rfl, released⟩
        have misuses : Misuses cfg _ := misuses_of_keyAhead dead key
        obtain ⟨as, t, reached, misuse⟩ := misuses
        exact (safe as t reached).1 misuse
      · rintro (null | none) as t reached
        · obtain ⟨still, ok⟩ := null_run reached (by simp [null, XkbRef.unref]) (by simp [fault])
          exact ⟨ok, fun _ => by simp [still]⟩
        · obtain ⟨still, same⟩ := safe_of_no_key reached rfl none
          simp [still, same, fault]

/-- A fixed-length session whose length has elapsed before the destructor runs. -/
theorem xkb_safe_elapsed : ∃ s s',
    run (step (keyboardRecorder false 30000)) (initial (keyboardRecorder false 30000) (some ()) 0)
      elapsedSession = some s ∧
    step (keyboardRecorder false 30000) s (.caller .unrefState) = some s' ∧
    XkbSafe (keyboardRecorder false 30000) s' :=
  ⟨_, _, Option.eq_some_of_isSome (by decide), Option.eq_some_of_isSome (by decide),
    (xkb_safe_iff _ _ _ (Option.eq_some_of_isSome (by decide))).mpr (.inr (by decide))⟩

def pressed : List Action :=
  [.record (.select (.ready [3]) 0), .record (.read (.event keyPress)), .record .keysym]

/-- The thread waits in `select` when the destructor begins, and a key is pressed. -/
theorem xkb_released_used : ∃ s t,
    run (step (keyboardRecorder true 30000)) (initial (keyboardRecorder true 30000) (some ()) 0)
      (enterLoop.append [.caller .unrefState]) = some s ∧
    run (step (keyboardRecorder true 30000)) s pressed = some t ∧
    t.fault = some .releasedXkb ∧ ¬ XkbSafe (keyboardRecorder true 30000) s :=
  ⟨_, _, Option.eq_some_of_isSome (by decide), Option.eq_some_of_isSome (by decide), by decide,
    fun safe => (safe pressed _ (Option.eq_some_of_isSome (by decide))).1 (by decide)⟩

end TestRunner.Recorder
