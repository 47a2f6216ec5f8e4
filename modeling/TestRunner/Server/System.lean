import TestRunner.Recorder.Descriptors
import TestRunner.Recorder.Progress
import TestRunner.Server.Registry
import TestRunner.Server.Snapshot
import TestRunner.Server.Uinput

/-! The server as a whole. The thread of the event loop handles one request after the other and at
last runs the destructor; the threads of all recorders run on meanwhile. -/
namespace TestRunner.Server

open Recorder

/-- The results of the calls on the uinput driver, the keymap, and the local time. -/
structure Surroundings where
  result : Nat → Int
  mXkbKeymap : Option Keymap
  xkbKeysymFromName : List UInt8 → UInt32
  fileTimestamp : Int → String

def Surroundings.server (around : Surroundings) : TestRunnerServer :=
  ⟨(construct around.result).1, around.mXkbKeymap, around.xkbKeysymFromName⟩

/-- Where the thread of the event loop is. -/
inductive ServerPc where
  -- between two requests, or in one for a custom recorder
  | serving
  -- `getSnapshot` in `Stop()`
  | stopping
  -- `getSnapshot`, or the constructor, in `Start()`
  | starting
  -- the destructor in `snapshot_recorder.reset()`
  | resetting
  -- the destructor in `custom_recorders.clear()`, at this one of them
  | clearing (i : Nat)
  -- the devices that are left to be closed
  | closing (devices : List VirtualDevice)
  deriving DecidableEq

structure System (X : Type) where
  pc : ServerPc
  snapshotConfig : Config X
  snapshot : Recorder.State X
  registry : Registry X
  -- the calls on the uinput driver
  trace : List Done

namespace System

inductive Action (X : Type) where
  | input (r : Request)
  | request (r : RecorderRequest) (host : Host X)
  | getSnapshot
  -- the byte of the signal handler
  | shutdown
  | snapshot (a : Recorder.Action)
  | custom (i : Nat) (a : Recorder.Action)
  | closeDevice

variable {X : Type}

/-- What the constructor leaves, but for the `Start()` of the snapshot recorder. -/
def initial (around : Surroundings) (host : Host X) : System X :=
  let cfg := snapshotRecorder host.availableDevices host.distinct host.xkb around.fileTimestamp
  { pc := .starting
    snapshotConfig := cfg
    snapshot := Recorder.initial cfg host.state host.now
    registry := Registry.initial
    trace := (construct around.result).2 }

/-- The statements of the destructor of a recorder. -/
def destroys : CallerAction → Bool
  | .unrefState | .unrefKeymap | .unrefCtx | .checkJoinable | .destroyFlag | .destroyTime
  | .destroyJoin | .close => true
  | _ => false

/-- No handler is in progress. -/
def idle (sys : System X) : Bool := sys.pc = .serving ∧ sys.registry.pending.isNone

def terminated (sys : System X) : Bool := sys.snapshot.fault.isSome || sys.registry.terminated

/-- The statements of the snapshot recorder that the thread executes where it is. -/
def calls (sys : System X) : Recorder.Action → Bool
  | .caller a => match sys.pc, a with
    | .stopping, .stopFlag | .stopping, .stopTime | .stopping, .stopJoin => true
    | .starting, .start | .starting, .spawn => true
    | .resetting, a => destroys a
    | _, _ => false
  | _ => true

/-- At the recorder of this index, or past the last one. -/
def clearFrom (reg : Registry X) (i : Nat) : ServerPc :=
  if i < reg.customRecorders.length then .clearing i else .closing allDevices

/-- A method of the snapshot recorder has returned, or its destructor. -/
def afterSnapshot (sys : System X) (s : Recorder.State X) : ServerPc :=
  match sys.pc with
  | .stopping =>
    if s.caller = .idle then if s.reply = some .systemError then .serving else .starting
    else .stopping
  | .starting => if s.caller = .idle then .serving else .starting
  | .resetting => if s.caller = .destroyed then clearFrom sys.registry 0 else .resetting
  | pc => pc

/-- The destructor is in the one of this recorder. -/
def clears (sys : System X) (i : Nat) : Recorder.Action → Bool
  | .caller a => sys.pc = .clearing i ∧ destroys a
  | _ => false

def afterCustom (sys : System X) (i : Nat) (s : Recorder.State X) : ServerPc :=
  if s.caller = .destroyed then clearFrom sys.registry (i + 1) else sys.pc

def isCaller : Recorder.Action → Bool
  | .caller _ => true
  | _ => false

def stepSnapshot (sys : System X) (a : Recorder.Action) : Option (System X) :=
  if sys.calls a then
    (Recorder.step sys.snapshotConfig sys.snapshot a).map fun s =>
      { sys with snapshot := s, pc := if isCaller a then sys.afterSnapshot s else sys.pc }
  else none

def stepCustom (around : Surroundings) (sys : System X) (i : Nat) (a : Recorder.Action) :
    Option (System X) :=
  if sys.clears i a then
    match sys.registry.customRecorders[i]? with
    | some custom => (Recorder.step custom.cfg custom.recorder a).map fun s =>
        { sys with registry := sys.registry.store i custom s, pc := sys.afterCustom i s }
    | none => none
  else (sys.registry.step around.fileTimestamp (.thread i a)).map fun reg =>
    { sys with registry := reg }

/-- A request of the input interface is handled in one go. -/
def inject (around : Surroundings) (sys : System X) (r : Request) : System X :=
  let writes := (around.server.handle r).map fun w => .write w.fd w.ev
  { sys with trace := performAll around.result sys.trace writes }

def close (around : Surroundings) (sys : System X) (device : VirtualDevice)
    (devices : List VirtualDevice) : System X :=
  let fd := around.server.mDeviceFd device
  { sys with pc := .closing devices, trace := closeInputDevice around.result sys.trace fd }

def step (around : Surroundings) (sys : System X) (a : Action X) : Option (System X) :=
  if sys.terminated then none else
  match a with
  | .input r => if sys.idle then some (sys.inject around r) else none
  | .request r host =>
    if sys.idle then
      (sys.registry.step around.fileTimestamp (.request r host)).map fun reg =>
        { sys with registry := reg }
    else none
  | .getSnapshot => if sys.idle then some { sys with pc := .stopping } else none
  | .shutdown => if sys.idle then some { sys with pc := .resetting } else none
  | .snapshot a => sys.stepSnapshot a
  | .custom i a => sys.stepCustom around i a
  | .closeDevice =>
    match sys.pc with
    | .closing (device :: devices) => some (sys.close around device devices)
    | _ => none

/-- The outcomes of a step. -/
inductive Move (around : Surroundings) (sys : System X) : Action X → System X → Prop where
  | input (r : Request) (idle : sys.idle = true) :
      Move around sys (.input r) (sys.inject around r)
  | request (r : RecorderRequest) (host : Host X) (reg : Registry X) (idle : sys.idle = true)
      (handled : sys.registry.step around.fileTimestamp (.request r host) = some reg) :
      Move around sys (.request r host) { sys with registry := reg }
  | getSnapshot (idle : sys.idle = true) : Move around sys .getSnapshot { sys with pc := .stopping }
  | shutdown (idle : sys.idle = true) : Move around sys .shutdown { sys with pc := .resetting }
  | snapshotCall (a : CallerAction) (s : Recorder.State X) (called : sys.calls (.caller a) = true)
      (stepped : Recorder.step sys.snapshotConfig sys.snapshot (.caller a) = some s) :
      Move around sys (.snapshot (.caller a)) { sys with snapshot := s, pc := sys.afterSnapshot s }
  | snapshotThread (a : Recorder.Action) (s : Recorder.State X) (thread : isCaller a = false)
      (stepped : Recorder.step sys.snapshotConfig sys.snapshot a = some s) :
      Move around sys (.snapshot a) { sys with snapshot := s }
  | cleared (i : Nat) (a : CallerAction) (custom : CustomRecorder X) (s : Recorder.State X)
      (pc : sys.pc = .clearing i) (destructs : destroys a = true)
      (found : sys.registry.customRecorders[i]? = some custom)
      (stepped : Recorder.step custom.cfg custom.recorder (.caller a) = some s) :
      Move around sys (.custom i (.caller a))
        { sys with registry := sys.registry.store i custom s, pc := sys.afterCustom i s }
  | custom (i : Nat) (a : Recorder.Action) (reg : Registry X) (other : sys.clears i a = false)
      (stepped : sys.registry.step around.fileTimestamp (.thread i a) = some reg) :
      Move around sys (.custom i a) { sys with registry := reg }
  | closeDevice (device : VirtualDevice) (devices : List VirtualDevice)
      (pc : sys.pc = .closing (device :: devices)) :
      Move around sys .closeDevice (sys.close around device devices)

variable {around : Surroundings} {sys sys' : System X}

theorem stepSnapshot_move {a : Recorder.Action} (h : sys.stepSnapshot a = some sys') :
    Move around sys (.snapshot a) sys' := by
  unfold stepSnapshot at h
  split at h
  · rename_i called
    obtain ⟨s, stepped, rfl⟩ := Option.map_eq_some_iff.mp h
    cases a with
    | caller a => exact .snapshotCall a s called stepped
    | _ => exact .snapshotThread _ s rfl stepped
  · cases h

theorem stepCustom_move {i : Nat} {a : Recorder.Action} (h : sys.stepCustom around i a = some sys') :
    Move around sys (.custom i a) sys' := by
  unfold stepCustom at h
  split at h
  · rename_i clearing
    split at h
    · rename_i custom found
      obtain ⟨s, stepped, rfl⟩ := Option.map_eq_some_iff.mp h
      cases a with
      | caller a =>
        simp only [clears, Bool.decide_and, Bool.and_eq_true, decide_eq_true_eq] at clearing
        exact .cleared i a custom s clearing.1 clearing.2 found stepped
      | _ => cases clearing
    · cases h
  · rename_i other
    obtain ⟨reg, stepped, rfl⟩ := Option.map_eq_some_iff.mp h
    exact .custom i a reg (by simpa using other) stepped

/-- Every step is one of these. -/
theorem step_move {a : Action X} (h : sys.step around a = some sys') :
    sys.terminated = false ∧ Move around sys a sys' := by
  unfold step at h
  split at h
  · cases h
  rename_i alive
  refine ⟨by simpa using alive, ?_⟩
  cases a with
  | input r =>
    simp only at h
    split at h
    · rename_i idle
      cases h
      exact .input r idle
    · cases h
  | request r host =>
    simp only at h
    split at h
    · rename_i idle
      obtain ⟨reg, handled, rfl⟩ := Option.map_eq_some_iff.mp h
      exact .request r host reg idle handled
    · cases h
  | getSnapshot =>
    simp only at h
    split at h
    · rename_i idle
      cases h
      exact .getSnapshot idle
    · cases h
  | shutdown =>
    simp only at h
    split at h
    · rename_i idle
      cases h
      exact .shutdown idle
    · cases h
  | snapshot a => exact stepSnapshot_move h
  | custom i a => exact stepCustom_move h
  | closeDevice =>
    simp only at h
    split at h
    · rename_i device devices pc
      cases h
      exact .closeDevice device devices pc
    · cases h

/-- The recorders up to this one are destroyed. -/
def past : ServerPc → Nat → Prop
  | .clearing i, j => j < i
  | .closing _, _ => True
  | _, _ => False

/-- The snapshot recorder is destroyed. -/
def reset : ServerPc → Prop
  | .clearing _ | .closing _ => True
  | _ => False

/-- Every recorder is in a state of its own runs, and destroyed as far as the destructor says. -/
structure Sound (sys : System X) : Prop where
  snapshot : Reached sys.snapshotConfig sys.snapshot
  customs : ∀ custom ∈ sys.registry.customRecorders, Reached custom.cfg custom.recorder
  unasked : sys.pc ≠ .serving → sys.registry.pending = none
  reset : System.reset sys.pc → sys.snapshot.caller = .destroyed
  gone : ∀ j, past sys.pc j → ∀ custom, sys.registry.customRecorders[j]? = some custom →
    custom.recorder.caller = .destroyed

theorem idle_iff : sys.idle = true ↔ sys.pc = .serving ∧ sys.registry.pending = none := by
  simp [idle]

theorem clearFrom_cases (reg : Registry X) (i : Nat) :
    clearFrom reg i = .clearing i ∨
      clearFrom reg i = .closing allDevices ∧ reg.customRecorders.length ≤ i := by
  unfold clearFrom
  split
  · exact .inl rfl
  · exact .inr ⟨rfl, by omega⟩

theorem destroyed_kept {cfg : Config X} {s s' : Recorder.State X} {a : Recorder.Action}
    (stepped : Recorder.step cfg s a = some s') (destroyed : s.caller = .destroyed) :
    s'.caller = .destroyed := by
  cases (Recorder.step_move stepped).2 with
  | caller m => cases m <;> simp_all
  | record m => cases m <;> exact destroyed
  | buffer m => cases m <;> exact destroyed
  | tick t => exact destroyed

theorem sound_initial (host : Host X) : Sound (initial around host) where
  snapshot := reached_initial _ _
  customs := by simp [initial, Registry.initial]
  unasked _ := rfl
  reset h := h.elim
  gone _ h := h.elim

/-- What is known of every custom recorder stays so in a step of the registry. -/
theorem customs_step {a : Registry.Action X} {reg : Registry X} (sound : Sound sys)
    (stepped : sys.registry.step around.fileTimestamp a = some reg) :
    ∀ custom ∈ reg.customRecorders, Reached custom.cfg custom.recorder := by
  refine Registry.forall_recorder_step sound.customs (Registry.step_move stepped) ?_ ?_
  · intro filename length continuous host custom accepted name cfg fresh
    rw [fresh]
    exact reached_initial _ _
  · exact fun custom a s reached stepped => reached.step stepped

theorem pending_thread {reg : Registry X} {i : Nat} {a : Recorder.Action}
    (stepped : sys.registry.step around.fileTimestamp (.thread i a) = some reg)
    (unasked : sys.registry.pending = none) : reg.pending = none := by
  cases Registry.step_move stepped with
  | thread i a custom s found allowed stepped =>
    obtain ⟨-, ⟨same, -⟩ | ⟨r, pending, -⟩⟩ := Registry.after_cases sys.registry i custom a s
    · exact same.trans unasked
    · exact absurd (pending.symm.trans unasked) (Option.some_ne_none r)

theorem gone_set {customs : List (CustomRecorder X)} {i j : Nat} {old custom : CustomRecorder X}
    {s : Recorder.State X} (inside : customs[i]? = some old)
    (kept : old.recorder.caller = .destroyed → s.caller = .destroyed)
    (gone : ∀ custom, customs[j]? = some custom → custom.recorder.caller = .destroyed)
    (found : (customs.set i { old with recorder := s })[j]? = some custom) :
    custom.recorder.caller = .destroyed := by
  by_cases own : i = j
  · subst own
    rw [List.getElem?_set_self (List.getElem?_eq_some_iff.mp inside).1] at found
    cases Option.some.inj found
    exact kept (gone old inside)
  · rw [List.getElem?_set_ne own] at found
    exact gone custom found

/-- A destroyed recorder stays so while the threads of others run. -/
theorem gone_thread {reg : Registry X} {i j : Nat} {a : Recorder.Action}
    {custom : CustomRecorder X} (stepped : sys.registry.step around.fileTimestamp (.thread i a) = some reg)
    (gone : ∀ custom, sys.registry.customRecorders[j]? = some custom →
      custom.recorder.caller = .destroyed)
    (found : reg.customRecorders[j]? = some custom) : custom.recorder.caller = .destroyed := by
  cases Registry.step_move stepped with
  | thread i a old s inside allowed moved =>
    rw [Registry.customRecorders_after] at found
    exact gone_set inside (destroyed_kept moved) gone found

/-- The destructor goes on when that of the snapshot recorder is over. -/
theorem afterSnapshot_cases {a : CallerAction} (s : Recorder.State X)
    (called : sys.calls (.caller a) = true) :
    sys.pc ≠ .serving ∧ ((¬ reset (sys.afterSnapshot s) ∧ ∀ j, ¬ past (sys.afterSnapshot s) j) ∨
      s.caller = .destroyed ∧ sys.afterSnapshot s = clearFrom sys.registry 0) := by
  unfold calls at called
  cases pc : sys.pc with
  | serving | clearing | closing => simp [pc] at called
  | stopping =>
    refine ⟨by simp, .inl ?_⟩
    simp only [afterSnapshot, pc]
    split
    · split <;> simp [reset, past]
    · simp [reset, past]
  | starting =>
    refine ⟨by simp, .inl ?_⟩
    simp only [afterSnapshot, pc]
    split <;> simp [reset, past]
  | resetting =>
    refine ⟨by simp, ?_⟩
    simp only [afterSnapshot, pc]
    split
    · rename_i destroyed
      exact .inr ⟨destroyed, rfl⟩
    · exact .inl (by simp [reset, past])

theorem past_clearFrom {reg : Registry X} {i j : Nat} (ended : past (clearFrom reg i) j)
    (inside : j < reg.customRecorders.length) : j < i := by
  rcases clearFrom_cases reg i with pc | ⟨-, few⟩
  · simpa [pc, past] using ended
  · omega

theorem sound_step {a : Action X} (sound : Sound sys) (move : Move around sys a sys') :
    Sound sys' := by
  cases move with
  | input r idle => exact ⟨sound.snapshot, sound.customs, sound.unasked, sound.reset, sound.gone⟩
  | request r host reg idle handled =>
    obtain ⟨pc, -⟩ := idle_iff.mp idle
    refine ⟨sound.snapshot, customs_step sound handled, ?_, ?_, ?_⟩ <;> simp [pc, reset, past]
  | getSnapshot idle =>
    exact ⟨sound.snapshot, sound.customs, fun _ => (idle_iff.mp idle).2, nofun, nofun⟩
  | shutdown idle =>
    exact ⟨sound.snapshot, sound.customs, fun _ => (idle_iff.mp idle).2, nofun, nofun⟩
  | snapshotCall a s called stepped =>
    obtain ⟨busy, inside | ⟨destroyed, next⟩⟩ := afterSnapshot_cases s called
    · exact ⟨sound.snapshot.step stepped, sound.customs, fun _ => sound.unasked busy,
        fun pc => absurd pc inside.1, fun j ended => absurd ended (inside.2 j)⟩
    · refine ⟨sound.snapshot.step stepped, sound.customs, fun _ => sound.unasked busy,
        fun _ => destroyed, fun j ended custom found => ?_⟩
      have few := past_clearFrom (next ▸ ended) (List.getElem?_eq_some_iff.mp found).1
      omega
  | snapshotThread a s thread stepped =>
    exact ⟨sound.snapshot.step stepped, sound.customs, sound.unasked,
      fun pc => destroyed_kept stepped (sound.reset pc), sound.gone⟩
  | cleared i a custom s pc destructs found stepped =>
    refine ⟨sound.snapshot, ?_, fun _ => sound.unasked (by simp [pc]),
      fun _ => sound.reset (by simp [pc, reset]), ?_⟩
    · intro other inside
      rcases List.mem_or_eq_of_mem_set inside with old | new
      · exact sound.customs other old
      · rw [new]
        exact (sound.customs custom (List.mem_of_getElem? found)).step stepped
    · intro j ended other inside
      by_cases own : i = j
      · subst own
        have last : s.caller = .destroyed := by
          by_contra going
          simp [afterCustom, going, pc, past] at ended
        simp only [Registry.store] at inside
        rw [List.getElem?_set_self (List.getElem?_eq_some_iff.mp found).1] at inside
        cases Option.some.inj inside
        exact last
      · simp only [Registry.store] at inside
        rw [List.getElem?_set_ne own] at inside
        have earlier : j < i := by
          unfold afterCustom at ended
          split at ended
          · have upTo := past_clearFrom ended (List.getElem?_eq_some_iff.mp inside).1
            omega
          · simpa [pc, past] using ended
        exact sound.gone j (by simpa [pc, past] using earlier) other inside
  | custom i a reg other stepped =>
    exact ⟨sound.snapshot, customs_step sound stepped,
      fun pc => pending_thread stepped (sound.unasked pc), sound.reset,
      fun j ended custom found => gone_thread stepped (sound.gone j ended) found⟩
  | closeDevice device devices pc =>
    refine ⟨sound.snapshot, sound.customs, fun _ => sound.unasked (by simp [pc]),
      fun _ => sound.reset (by simp [pc, reset]), fun j _ => sound.gone j (by simp [pc, past])⟩

theorem sound_run {host : Host X} {as : List (Action X)}
    (reached : run (step around) (initial around host) as = some sys) : Sound sys :=
  run_invariant reached (sound_initial host) fun _ _ _ _ stepped sound =>
    sound_step sound (step_move stepped).2

section Trace

def Action.injected : Action X → Option Request
  | .input r => some r
  | _ => none

/-- The calls of the constructor and those of the requests. -/
def Injected (around : Surroundings) (requests : List Request) (sys : System X) : Prop :=
  sys.trace = performAll around.result (construct around.result).2
    ((around.server.writes requests).map fun w => .write w.fd w.ev)

/-- With the devices closed that are left, the calls are those of a whole lifetime. -/
def Traced (around : Surroundings) (requests : List Request) (sys : System X) : Prop :=
  match sys.pc with
  | .closing devices =>
    (devices.map around.server.mDeviceFd).foldl (closeInputDevice around.result) sys.trace =
      lifetime around.result around.mXkbKeymap around.xkbKeysymFromName requests
  | _ => Injected around requests sys

variable {requests : List Request}

theorem Injected.traced (h : Injected around requests sys)
    (pc : ∀ devices, sys.pc = .closing devices → devices = allDevices) :
    Traced around requests sys := by
  unfold Traced
  split
  · rename_i devices here
    rw [pc devices here, h]
    rfl
  · exact h

theorem Traced.injected (h : Traced around requests sys) (pc : ∀ devices, sys.pc ≠ .closing devices) :
    Injected around requests sys := by
  unfold Traced at h
  split at h
  · rename_i devices here
    exact absurd here (pc devices)
  · exact h

theorem clearFrom_closing {reg : Registry X} {i : Nat} {devices : List VirtualDevice}
    (pc : clearFrom reg i = .closing devices) : devices = allDevices := by
  rcases clearFrom_cases reg i with same | ⟨same, -⟩
  · cases same.symm.trans pc
  · cases same.symm.trans pc
    rfl

theorem Traced.keep (h : Traced around requests sys) (pc : sys'.pc = sys.pc)
    (trace : sys'.trace = sys.trace) : Traced around requests sys' := by
  unfold Traced Injected
  rw [pc, trace]
  exact h

theorem injected_append (h : Injected around requests sys) (r : Request) :
    Injected around (requests ++ [r]) (sys.inject around r) := by
  unfold Injected at h ⊢
  simp only [inject, h, performAll, TestRunnerServer.writes, List.flatMap_append,
    List.flatMap_singleton, List.map_append, List.foldl_append]

theorem traced_step {a : Action X} (h : Traced around requests sys) (move : Move around sys a sys') :
    Traced around (requests ++ (Action.injected a).toList) sys' := by
  have nothing : requests ++ (none : Option Request).toList = requests := List.append_nil _
  have begun (pc : ∀ devices, sys.pc ≠ .closing devices) (trace : sys'.trace = sys.trace)
      (next : ∀ devices, sys'.pc = .closing devices → devices = allDevices) :
      Traced around requests sys' := by
    refine Injected.traced ?_ next
    unfold Injected
    rw [trace]
    exact h.injected pc
  cases move with
  | input r idle =>
    have pc := (idle_iff.mp idle).1
    exact (injected_append (h.injected (by simp [pc])) r).traced (by simp [inject, pc])
  | request r host reg idle handled => exact nothing.symm ▸ h.keep rfl rfl
  | getSnapshot idle => exact nothing.symm ▸ begun (by simp [idle_iff.mp idle]) rfl (by simp)
  | shutdown idle => exact nothing.symm ▸ begun (by simp [idle_iff.mp idle]) rfl (by simp)
  | snapshotCall a s called stepped =>
    refine nothing.symm ▸ begun ?_ rfl fun devices pc => ?_
    · intro devices pc
      simp [calls, pc] at called
    · obtain ⟨-, inside | ⟨-, next⟩⟩ := afterSnapshot_cases s called
      · simp only at pc
        exact absurd (by simp [pc, reset]) inside.1
      · exact clearFrom_closing (next.symm.trans pc)
  | snapshotThread a s thread stepped => exact nothing.symm ▸ h.keep rfl rfl
  | cleared i a custom s pc destructs found stepped =>
    refine nothing.symm ▸ begun (by simp [pc]) rfl fun devices next => ?_
    simp only [afterCustom] at next
    split at next
    · exact clearFrom_closing next
    · cases pc.symm.trans next
  | custom i a reg other stepped => exact nothing.symm ▸ h.keep rfl rfl
  | closeDevice device devices pc =>
    unfold Traced at h ⊢
    simp only [pc, List.map_cons, List.foldl_cons] at h
    exact nothing.symm ▸ h

theorem traced_run {host : Host X} {as : List (Action X)}
    (reached : run (step around) (initial around host) as = some sys) :
    Traced around (as.filterMap Action.injected) sys := by
  induction as using List.reverseRecOn generalizing sys with
  | nil =>
    cases Option.some.inj reached
    rfl
  | append_singleton as a ih =>
    obtain ⟨t, before, stepped⟩ := run_snoc.mp reached
    have next := traced_step (ih before) (step_move stepped).2
    rw [List.filterMap_append]
    cases given : a.injected <;> simpa [given] using next

end Trace

/-- A destroyed recorder has no thread, and the descriptors of its available devices are closed. -/
theorem destroyed_ended {cfg : Config X} {s : Recorder.State X} (reached : Reached cfg s)
    (destroyed : s.caller = .destroyed) :
    s.record = .absent ∧ s.buffer = .absent ∧ s.closed = cfg.availableDevices.map InDevice.fd := by
  obtain ⟨xkb, now, as, runs⟩ := reached
  have joined : (s.caller = .closing ∨ s.caller = .destroyed) → s.mRecorderThread = false := by
    refine run_invariant runs
      (I := fun s => (s.caller = .closing ∨ s.caller = .destroyed) → s.mRecorderThread = false)
      (by simp [Recorder.initial]) ?_
    rintro a - s s' stepped joined
    cases (Recorder.step_move stepped).2 with
    | caller m => cases m <;> simp_all [State.note]
    | record m => cases m <;> exact joined
    | buffer m => cases m <;> exact joined
    | tick t => exact joined
  have base := (reachable_placed runs).1
  have record : s.record = .absent := by
    by_contra some
    exact absurd ((joined (.inr destroyed)).symm.trans (base.joinable.mpr some)) Bool.false_ne_true
  exact ⟨record, base.buffer_absent (by simp [record]), closed_run runs destroyed⟩

/-- In every order of requests and of the statements of all threads: when the destructor comes to the
virtual devices, no recorder has a thread left and each has closed the descriptors of its available
devices, and once it is over the calls on the driver are those of the four devices and of the
requests, one after the other. -/
theorem shutdown_ordered (around : Surroundings) (host : Host X) (as : List (Action X))
    (sys : System X) (reached : run (step around) (initial around host) as = some sys)
    (devices : List VirtualDevice) (pc : sys.pc = .closing devices) :
    (sys.snapshot.record = .absent ∧ sys.snapshot.buffer = .absent ∧
      sys.snapshot.closed = sys.snapshotConfig.availableDevices.map InDevice.fd) ∧
    (∀ custom ∈ sys.registry.customRecorders, custom.recorder.record = .absent ∧
      custom.recorder.buffer = .absent ∧
      custom.recorder.closed = custom.cfg.availableDevices.map InDevice.fd) ∧
    (devices = [] → sys.trace = lifetime around.result around.mXkbKeymap around.xkbKeysymFromName
      (as.filterMap Action.injected)) := by
  have sound := sound_run reached
  refine ⟨destroyed_ended sound.snapshot (sound.reset (by simp [pc, reset])), ?_, ?_⟩
  · intro custom inside
    obtain ⟨j, found⟩ := List.mem_iff_getElem?.mp inside
    exact destroyed_ended (sound.customs custom inside)
      (sound.gone j (by simp [pc, past]) custom found)
  · rintro rfl
    have traced := traced_run reached
    unfold Traced at traced
    simpa [pc] using traced

def plainSurroundings : Surroundings := ⟨fun n => n, none, fun _ => xkbKeyNoSymbol, fun _ => "t"⟩

def keyboardHost : Host Unit where
  availableDevices := (keyboardRecorder true 30000).availableDevices
  distinct := (keyboardRecorder true 30000).distinct
  xkb := (keyboardRecorder true 30000).xkb
  state := some ()
  now := 0

/-- The destructor of a recorder whose thread runs, and the end of the thread. -/
def joinedDestruction : List Recorder.Action :=
  List.flatten [[.caller .unrefState, .caller .unrefKeymap, .caller .unrefCtx, .caller .checkJoinable,
    .caller .destroyFlag, .caller .destroyTime], dumpWaiting.drop 3,
    [.buffer .write, .record (.select .timeout 0), .record .load, .record .joinBuffer,
      .caller .destroyJoin, .caller .close]]

/-- A server that injects a key, makes a recorder and ends. -/
def shortLife : List (Action Unit) :=
  List.flatten [startSession.map .snapshot,
    [.input (.keyPress ⟨true, .rawCode 30⟩),
      .request (.createCustomRecorder [97] 1 false) keyboardHost, .shutdown],
    [.snapshot (.buffer .wake), .snapshot (.buffer .now), .snapshot (.buffer .trim)],
    joinedDestruction.map .snapshot,
    (destruction).map (.custom 0), [.closeDevice, .closeDevice, .closeDevice, .closeDevice]]

theorem shutdown_ordered_short : ∃ sys,
    run (step plainSurroundings) (initial plainSurroundings keyboardHost) shortLife = some sys ∧
    sys.pc = .closing [] ∧ sys.registry.customRecorders.length = 1 ∧
    sys.snapshot.record = .absent ∧ sys.trace = lifetime plainSurroundings.result
      plainSurroundings.mXkbKeymap plainSurroundings.xkbKeysymFromName
      (shortLife.filterMap Action.injected) :=
  have reached : run (step plainSurroundings) (initial plainSurroundings keyboardHost) shortLife =
      some _ := Option.eq_some_of_isSome (by decide)
  have ordered := shutdown_ordered plainSurroundings keyboardHost shortLife _ reached [] (by decide)
  ⟨_, reached, by decide, by decide, ordered.1.1, ordered.2.2 rfl⟩

end System

end TestRunner.Server
