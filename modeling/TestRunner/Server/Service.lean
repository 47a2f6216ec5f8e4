import TestRunner.Recorder.Files
import TestRunner.Recorder.Handle
import TestRunner.Server.System

/-! No request and no destructor comes to a deadlock, and every `getSnapshot` that returns leaves a
recording and a new session. -/
namespace TestRunner.Recorder

variable {X : Type} {cfg : Config X} {s s' : State X} {method : CallerAction → Bool}

/-- The statement that a call in progress is at. -/
def CallerPc.next : CallerPc → Option CallerAction
  | .idle | .destroyed => none
  | .spawning => some .spawn
  | .stopping => some .stopTime
  | .joining => some .stopJoin
  | .unrefKeymap => some .unrefKeymap
  | .unrefCtx => some .unrefCtx
  | .checkJoinable => some .checkJoinable
  | .destroyFlag => some .destroyFlag
  | .destroyStopping => some .destroyTime
  | .destroyJoining => some .destroyJoin
  | .closing => some .close

/-- The statements that can follow a statement of the same method. -/
def CallerAction.follows : CallerAction → List CallerAction
  | .start => [.spawn]
  | .stopFlag => [.stopTime]
  | .stopTime => [.stopJoin]
  | .unrefState => [.unrefKeymap]
  | .unrefKeymap => [.unrefCtx]
  | .unrefCtx => [.checkJoinable]
  | .checkJoinable => [.destroyFlag, .close]
  | .destroyFlag => [.destroyTime]
  | .destroyTime => [.destroyJoin]
  | .destroyJoin => [.close]
  | .spawn => [.spawn]
  | _ => []

/-- The statements of one method, or of none. -/
def Method (method : CallerAction → Bool) : Prop :=
  ∀ a, method a = true → ∀ b ∈ a.follows, method b = true

/-- No call is in progress, or one of the method is. -/
def At (method : CallerAction → Bool) (s : State X) : Prop :=
  s.caller = .idle ∨ ∃ a, s.caller.next = some a ∧ method a = true

theorem next_of_move {a : CallerAction} (m : CallerMove cfg s a s')
    (inside : Action.outside (.caller a) = false) : s.caller.next = some a := by
  cases m <;> simp_all [CallerPc.next, Action.outside]

theorem At.idle (h : At (fun _ => false) s) : s.caller = .idle := by
  rcases h with idle | ⟨a, -, none⟩
  · exact idle
  · cases none

theorem At.inside (h : At method s)
    (busy : s.caller ≠ .idle) : s.caller ≠ .destroyed := by
  rintro pc
  obtain ⟨a, next, -⟩ := h.resolve_left busy
  simp [pc, CallerPc.next] at next

theorem at_caller {a : CallerAction} (whole : Method method) (m : CallerMove cfg s a s')
    (own : method a = true) : At method s' ∨ a = .close ∧ s'.caller = .destroyed := by
  have follows := whole a own
  cases m with
  | close => exact .inr ⟨rfl, rfl⟩
  | startActive | joinThrows | spawn | stopJoin => exact .inl (.inl rfl)
  | isActive pc => exact .inl (.inl pc)
  | setDevices devices pc => exact .inl (.inl pc)
  | terminate pc => exact .inl (.inr ⟨.spawn, by simp [pc, CallerPc.next], own⟩)
  | checkFree => exact .inl (.inr ⟨.close, rfl, follows _ (by simp [CallerAction.follows])⟩)
  | _ => exact .inl (.inr ⟨_, rfl, follows _ (by simp [CallerAction.follows])⟩)

/-- The first statement of a call can be executed, or a thread that holds the lock can go on. -/
theorem first_enabled (placed : Placed cfg s) (fault : s.fault = none) (idle : s.caller = .idle)
    {first : CallerAction} (begins : Action.outside (.caller first) = true) :
    ThreadEnabled cfg s ∨ ∃ s', step cfg s (.caller first) = some s' := by
  have go {t : State X} (m : CallerMove cfg s first t) :
      ThreadEnabled cfg s ∨ ∃ s', step cfg s (.caller first) = some s' :=
    .inr ⟨t, move_step fault (.caller m)⟩
  by_cases held : s.record.holdsStop = true
  · have running : s.running := by
      constructor <;> rintro pc <;> simp [pc] at held
    exact .inl (threadEnabled_of_running fault placed running (by simp [idle]))
  · have free : s.stopMtxFree = true := by simp [State.stopMtxFree, idle, held]
    cases first with
    | start =>
      by_cases active : s.isActive = true
      · exact go (.startActive idle free active)
      · exact go (.startInactive idle free (by simpa using active))
    | stopFlag => exact go (.stopFlag idle free)
    | isActive => exact go (.isActive idle free)
    | setDevicesToRecord devices => exact go (.setDevices devices idle)
    | unrefState => exact go (.unrefState idle)
    | _ => cases begins

/-- A method can go on, or a thread that it waits for. -/
theorem method_enabled (reached : Reached cfg s) (fault : s.fault = none) (place : At method s)
    {first : CallerAction} (own : method first = true)
    (begins : Action.outside (.caller first) = true) :
    ThreadEnabled cfg s ∨ ∃ a s', method a = true ∧ step cfg s (.caller a) = some s' := by
  obtain ⟨base, placed⟩ := reached.placed
  rcases place with idle | ⟨a, next, inside⟩
  · rcases first_enabled placed fault idle begins with thread | ⟨t, stepped⟩
    · exact .inl thread
    · exact .inr ⟨first, t, own, stepped⟩
  · have called : s.caller ≠ .idle ∧ s.caller ≠ .destroyed := by
      constructor <;> rintro pc <;> simp [pc, CallerPc.next] at next
    obtain ⟨b, t, inner, stepped⟩ := enabled_of_caller base placed fault called
    cases b with
    | caller b =>
      cases (step_move stepped).2 with
      | caller m =>
        cases Option.some.inj (next.symm.trans (next_of_move m inner))
        exact .inr ⟨a, t, inside, stepped⟩
    | record b => exact .inl ⟨_, t, rfl, stepped⟩
    | buffer b => exact .inl ⟨_, t, rfl, stepped⟩
    | tick n => cases inner

end TestRunner.Recorder

namespace TestRunner.Server

open Recorder

namespace System

variable {X : Type} {around : Surroundings} {sys sys' : System X}

/-- The statements of the snapshot recorder that the thread may execute. -/
def snapshotMethod (sys : System X) (a : CallerAction) : Bool := sys.calls (.caller a)

/-- Those of a custom recorder. -/
def customMethod (sys : System X) (i : Nat) (a : CallerAction) : Bool :=
  sys.clears i (.caller a) || sys.registry.allows i (.caller a)

theorem method_destroys : Method destroys := by
  intro a own b next
  cases a with
  | checkJoinable =>
    simp only [CallerAction.follows, List.mem_cons, List.not_mem_nil, or_false] at next
    rcases next with rfl | rfl <;> rfl
  | close => simp [CallerAction.follows] at next
  | _ => simp_all [destroys, CallerAction.follows]

theorem method_calls (r : RecorderRequest) : Method r.calls := by
  intro a own b next
  cases r <;> cases a <;> simp_all [RecorderRequest.calls, CallerAction.follows]

theorem method_snapshot (sys : System X) : Method sys.snapshotMethod := by
  intro a own b next
  simp only [snapshotMethod, calls] at own ⊢
  cases pc : sys.pc with
  | resetting =>
    rw [pc] at own
    have more := method_destroys a (by cases a <;> simp_all) b next
    cases b <;> simp_all [destroys]
  | _ => cases a <;> simp_all [CallerAction.follows]

/-- No statement of a custom recorder, those of its destructor, or those of a request. -/
inductive CustomMethod (sys : System X) (i : Nat) : Prop where
  | unasked (same : sys.customMethod i = fun _ => false)
  | clearing (pc : sys.pc = .clearing i) (same : sys.customMethod i = destroys)
  | asked (r : RecorderRequest) (index : UInt8) (pending : sys.registry.pending = some r)
      (addressed : r.index = some index) (own : index.toNat = i)
      (same : sys.customMethod i = r.calls)

theorem customMethod_clearing {i : Nat} (pc : sys.pc = .clearing i)
    (unasked : sys.registry.pending = none) : sys.customMethod i = destroys := by
  funext a
  simp [customMethod, clears, pc, Registry.allows, unasked]

theorem customMethod_congr (pc : sys'.pc = sys.pc)
    (pending : sys'.registry.pending = sys.registry.pending) (i : Nat) :
    sys'.customMethod i = sys.customMethod i := by
  funext a
  simp only [customMethod, clears, Registry.allows, pc, pending]

theorem customMethod_cases (sound : Sound sys) (i : Nat) : CustomMethod sys i := by
  by_cases clearing : sys.pc = .clearing i
  · exact .clearing clearing (customMethod_clearing clearing (sound.unasked (by simp [clearing])))
  · have unclear : ∀ a, sys.clears i (.caller a) = false := fun a => by simp [clears, clearing]
    cases pending : sys.registry.pending with
    | none => exact .unasked (funext fun a => by simp [customMethod, unclear, Registry.allows, pending])
    | some r =>
      by_cases own : ∃ index, r.index = some index ∧ index.toNat = i
      · obtain ⟨index, addressed, same⟩ := own
        refine .asked r index pending addressed same (funext fun a => ?_)
        simp [customMethod, unclear, Registry.allows, pending, addressed, same]
      · refine .unasked (funext fun a => ?_)
        simp only [customMethod, unclear, Registry.allows, pending, Bool.false_or, Option.any_some,
          Bool.and_eq_false_imp, Option.any_eq_true, decide_eq_true_eq]
        exact fun inside => absurd inside own

theorem method_custom (sound : Sound sys) (i : Nat) : Method (sys.customMethod i) := by
  cases customMethod_cases sound i with
  | unasked same => simp [same, Method]
  | clearing pc same => exact same ▸ method_destroys
  | asked r index pending addressed own same => exact same ▸ method_calls r

/-- Every recorder is in the method that the thread is in, if any; the request in progress and the
destructor are at a recorder that exists. -/
structure Manned (sys : System X) : Prop where
  snapshot : ¬ reset sys.pc → At sys.snapshotMethod sys.snapshot
  customs : ∀ i, ¬ past sys.pc i → ∀ custom, sys.registry.customRecorders[i]? = some custom →
    At (sys.customMethod i) custom.recorder
  pending : ∀ r, sys.registry.pending = some r → ∃ index, r.index = some index ∧
    index.toNat < sys.registry.customRecorders.length ∧
    ∃ first, r.calls first = true ∧ Recorder.Action.outside (.caller first) = true
  clearing : ∀ i, sys.pc = .clearing i → i < sys.registry.customRecorders.length

/-- Outside of a request for a custom recorder and of the destructor, those are idle. -/
theorem Manned.idle (manned : Manned sys) (sound : Sound sys) (asked : sys.registry.pending = none)
    {i : Nat} (pc : sys.pc ≠ .clearing i) (ended : ¬ past sys.pc i) {custom : CustomRecorder X}
    (found : sys.registry.customRecorders[i]? = some custom) : custom.recorder.caller = .idle := by
  have place := manned.customs i ended custom found
  cases customMethod_cases sound i with
  | unasked same => exact At.idle (same ▸ place)
  | clearing here => exact absurd here pc
  | asked r _ pending => exact absurd (pending.symm.trans asked) (Option.some_ne_none r)

theorem manned_initial (host : Host X) : Manned (initial around host) where
  snapshot _ := .inl rfl
  customs i _ custom found := by simp [initial, Registry.initial] at found
  pending r asked := by simp [initial, Registry.initial] at asked
  clearing i pc := by simp [initial] at pc

/-- A request whose handler is in a method has a first statement there. -/
theorem first_call {r q : RecorderRequest} {host : Host X} {reg : Registry X}
    (handled : sys.registry.step around.fileTimestamp (.request r host) = some reg)
    (asked : reg.pending = some q) :
    ∃ first, q.calls first = true ∧ Recorder.Action.outside (.caller first) = true := by
  simp only [Registry.step] at handled
  split at handled
  · cases handled
  split at handled
  · cases Option.some.inj handled
    cases r with
    | createCustomRecorder =>
      simp only [Registry.handle, Registry.createCustomRecorder] at asked
      split at asked
      · cases asked
      · split at asked <;> cases asked
    | listDevices =>
      simp only [Registry.handle, Registry.listDevices] at asked
      split at asked <;> cases asked
    | setDevicesToRecord index devices =>
      simp only [Registry.handle, Registry.call] at asked
      split at asked <;> cases asked
      exact ⟨.setDevicesToRecord (devices.map InputDevice.inDevice), by simp [RecorderRequest.calls], rfl⟩
    | startCustomRecording =>
      simp only [Registry.handle, Registry.call] at asked
      split at asked <;> cases asked
      exact ⟨.start, rfl, rfl⟩
    | stopCustomRecording =>
      simp only [Registry.handle, Registry.call] at asked
      split at asked <;> cases asked
      exact ⟨.stopFlag, rfl, rfl⟩
    | checkRecorderActive =>
      simp only [Registry.handle, Registry.call] at asked
      split at asked <;> cases asked
      exact ⟨.isActive, rfl, rfl⟩
  · cases handled

theorem manned_request {r : RecorderRequest} {host : Host X} {reg : Registry X} (sound : Sound sys)
    (manned : Manned sys) (idle : sys.idle = true)
    (handled : sys.registry.step around.fileTimestamp (.request r host) = some reg) :
    Manned { sys with registry := reg } := by
  obtain ⟨pc, unasked⟩ := idle_iff.mp idle
  have before {i : Nat} {custom : CustomRecorder X}
      (found : sys.registry.customRecorders[i]? = some custom) : custom.recorder.caller = .idle :=
    manned.idle sound unasked (by simp [pc]) (by simp [pc, past]) found
  refine ⟨fun _ => ?_, fun i _ custom found => .inl ?_, ?_, by simp [pc]⟩
  · exact manned.snapshot (by simp [pc, reset])
  · cases Registry.step_move handled with
    | created filename length continuous host accepted room new name cfg fresh =>
      rw [Registry.customRecorders_answer, Registry.customRecorders_push,
        List.getElem?_append] at found
      split at found
      · exact before found
      · obtain rfl : new = custom := by
          rw [List.getElem?_singleton] at found
          split at found
          · exact Option.some.inj found
          · cases found
        rw [fresh]
        rfl
    | _ => exact before found
  · intro q asked
    have first := first_call handled asked
    cases Registry.step_move handled with
    | called r host index addressed found =>
      cases Option.some.inj asked
      exact ⟨index, addressed, found, first⟩
    | _ => cases asked

theorem clearFrom_clearing {reg : Registry X} {i j : Nat} (pc : clearFrom reg i = .clearing j) :
    j = i ∧ i < reg.customRecorders.length := by
  unfold clearFrom at pc
  split at pc
  · rename_i inside
    cases pc
    exact ⟨rfl, inside⟩
  · cases pc

/-- As long as the method has a statement left, the thread stays in it. -/
theorem afterSnapshot_inside {a : CallerAction} {s : Recorder.State X}
    (called : sys.calls (.caller a) = true) (next : s.caller ≠ .idle ∧ s.caller ≠ .destroyed) :
    sys.afterSnapshot s = sys.pc := by
  unfold afterSnapshot
  cases pc : sys.pc <;> simp_all [calls]

theorem afterSnapshot_destroyed {s : Recorder.State X} (called : sys.calls (.caller .close) = true)
    (destroyed : s.caller = .destroyed) : reset (sys.afterSnapshot s) := by
  unfold afterSnapshot
  cases pc : sys.pc with
  | resetting =>
    simp only [destroyed, if_true]
    rcases clearFrom_cases sys.registry 0 with next | ⟨next, -⟩ <;> simp [next, reset]
  | _ => simp [calls, pc] at called

/-- The snapshot recorder's method has gone on, has returned, or was its destructor. -/
theorem manned_snapshotCall {a : CallerAction} {s : Recorder.State X} (sound : Sound sys)
    (manned : Manned sys) (called : sys.calls (.caller a) = true)
    (stepped : Recorder.step sys.snapshotConfig sys.snapshot (.caller a) = some s) :
    Manned { sys with snapshot := s, pc := sys.afterSnapshot s } := by
  obtain ⟨busy, after⟩ := afterSnapshot_cases s called
  have unclear : ∀ i, sys.pc ≠ .clearing i ∧ ¬ past sys.pc i := by
    intro i
    cases pc : sys.pc <;> simp_all [calls, past]
  have before {i : Nat} {custom : CustomRecorder X}
      (found : sys.registry.customRecorders[i]? = some custom) : custom.recorder.caller = .idle :=
    manned.idle sound (sound.unasked busy) (unclear i).1 (unclear i).2 found
  refine ⟨fun on => ?_, fun i _ custom found => .inl (before found), manned.pending, fun i pc => ?_⟩
  · cases (Recorder.step_move stepped).2 with
    | caller m =>
      rcases at_caller (method_snapshot sys) m called with place | ⟨rfl, destroyed⟩
      · by_cases idle : s.caller = .idle
        · exact .inl idle
        · have same := afterSnapshot_inside called ⟨idle, place.inside idle⟩
          simp only [same]
          exact place
      · exact absurd (afterSnapshot_destroyed called destroyed) on
  · rcases after with ⟨on, -⟩ | ⟨-, next⟩
    · simp only at pc
      exact absurd (by simp [pc, reset]) on
    · obtain ⟨rfl, inside⟩ := clearFrom_clearing (next.symm.trans pc)
      exact inside

theorem reset_clearFrom (reg : Registry X) (i : Nat) : reset (clearFrom reg i) := by
  rcases clearFrom_cases reg i with pc | ⟨pc, -⟩ <;> simp [pc, reset]

theorem past_of_clearFrom {reg : Registry X} {i j : Nat} (earlier : j < i) : past (clearFrom reg i) j := by
  rcases clearFrom_cases reg i with pc | ⟨pc, -⟩ <;> simp [pc, past, earlier]

/-- The destructor of a custom recorder has gone on, or is over. -/
theorem manned_cleared {i : Nat} {a : CallerAction} {custom : CustomRecorder X}
    {s : Recorder.State X} (sound : Sound sys) (manned : Manned sys) (pc : sys.pc = .clearing i)
    (destructs : destroys a = true) (found : sys.registry.customRecorders[i]? = some custom)
    (stepped : Recorder.step custom.cfg custom.recorder (.caller a) = some s) :
    Manned { sys with registry := sys.registry.store i custom s, pc := sys.afterCustom i s } := by
  have inside := (List.getElem?_eq_some_iff.mp found).1
  have unasked : sys.registry.pending = none := sound.unasked (by simp [pc])
  have next : s.caller = .destroyed ∧ sys.afterCustom i s = clearFrom sys.registry (i + 1) ∨
      s.caller ≠ .destroyed ∧ sys.afterCustom i s = .clearing i := by
    by_cases destroyed : s.caller = .destroyed
    · exact .inl ⟨destroyed, if_pos destroyed⟩
    · exact .inr ⟨destroyed, (if_neg destroyed).trans pc⟩
  refine ⟨fun on => ?_, fun j ended other here => ?_, ?_, fun j at_ => ?_⟩
  · rcases next with ⟨-, goes⟩ | ⟨-, goes⟩
    · exact absurd (goes ▸ reset_clearFrom ..) on
    · exact absurd (by simp [goes, reset]) on
  · simp only [Registry.store] at here
    by_cases own : i = j
    · subst own
      rw [List.getElem?_set_self inside] at here
      cases Option.some.inj here
      rcases next with ⟨-, goes⟩ | ⟨going, goes⟩
      · exact absurd (goes ▸ past_of_clearFrom (Nat.lt_succ_self i)) ended
      · rw [customMethod_clearing (by exact goes) (by exact unasked)]
        cases (Recorder.step_move stepped).2 with
        | caller m => exact (at_caller method_destroys m destructs).resolve_right fun ended => going ended.2
    · rw [List.getElem?_set_ne own] at here
      have later : i < j := by
        by_contra early
        refine ended ?_
        rcases next with ⟨-, goes⟩ | ⟨-, goes⟩
        · exact goes ▸ past_of_clearFrom (by omega)
        · simp only [goes, past]
          omega
      refine .inl (manned.idle sound unasked ?_ ?_ here)
      · simp [pc, own]
      · simp only [pc, past]
        omega
  · intro r asked
    exact absurd (asked.symm.trans unasked) (Option.some_ne_none r)
  · simp only [Registry.store, List.length_set]
    rcases next with ⟨-, goes⟩ | ⟨-, goes⟩
    · obtain ⟨rfl, last⟩ := clearFrom_clearing (goes.symm.trans at_)
      exact last
    · cases goes.symm.trans at_
      exact inside

/-- A statement of a custom recorder leaves the request pending, or was its last one. -/
theorem after_pending (reg : Registry X) (i : Nat) (custom : CustomRecorder X) (a : Recorder.Action)
    (s : Recorder.State X) : (reg.after i custom a s).pending = reg.pending ∨
      (∃ c, a = .caller c) ∧ s.caller = .idle ∧ (reg.after i custom a s).pending = none := by
  unfold Registry.after
  split
  · split
    · rename_i done
      cases a with
      | caller c => exact .inr ⟨⟨c, rfl⟩, by simpa [Registry.returned] using done, rfl⟩
      | _ => cases done
    · exact .inl rfl
  · exact .inl rfl

theorem manned_own {i : Nat} {a : Recorder.Action} {cfg : Config X} {s t : Recorder.State X}
    (sound : Sound sys) (place : At (sys.customMethod i) s) (allowed : sys.registry.allows i a = true)
    (move : Recorder.Move cfg s a t) : At (sys.customMethod i) t := by
  cases a with
  | caller c =>
    have own : sys.customMethod i c = true := by simp [customMethod, allowed]
    cases move with
    | caller m =>
      refine (at_caller (method_custom sound i) m own).resolve_right ?_
      rintro ⟨rfl, -⟩
      obtain ⟨r, -, pending, -⟩ := Registry.allows_caller allowed
      cases r <;> simp [Registry.allows, pending, RecorderRequest.calls] at allowed
  | _ =>
    unfold At at place ⊢
    rwa [caller_thread move (by rintro c ⟨⟩)]

/-- While a request is for one custom recorder, the others are idle. -/
theorem idle_other {i j : Nat} {c : CallerAction} {s : Recorder.State X} (sound : Sound sys)
    (allowed : sys.registry.allows i (.caller c) = true) (other : j ≠ i)
    (place : At (sys.customMethod j) s) : s.caller = .idle := by
  obtain ⟨r, index, pending, addressed, own⟩ := Registry.allows_caller allowed
  cases customMethod_cases sound j with
  | unasked same => exact At.idle (same ▸ place)
  | clearing pc =>
    exact absurd (pending.symm.trans (sound.unasked (by simp [pc]))) (Option.some_ne_none r)
  | asked r' index' pending' addressed' own' =>
    cases Option.some.inj (pending.symm.trans pending')
    cases Option.some.inj (addressed.symm.trans addressed')
    exact absurd (own'.symm.trans own) other

theorem manned_custom {i : Nat} {a : Recorder.Action} {reg : Registry X} (sound : Sound sys)
    (manned : Manned sys)
    (stepped : sys.registry.step around.fileTimestamp (.thread i a) = some reg) :
    Manned { sys with registry := reg } := by
  cases Registry.step_move stepped with
  | thread i a custom s found allowed moved =>
    have inside := (List.getElem?_eq_some_iff.mp found).1
    have pending := after_pending sys.registry i custom a s
    have move := (Recorder.step_move moved).2
    refine ⟨manned.snapshot, fun j ended other here => ?_, fun r asked => ?_, fun j pc => ?_⟩
    · rw [Registry.customRecorders_after] at here
      by_cases own : i = j
      · subst own
        rw [List.getElem?_set_self inside] at here
        cases Option.some.inj here
        have place := manned_own sound (manned.customs i ended custom found) allowed move
        rcases pending with same | ⟨-, idle, -⟩
        · have method : customMethod { sys with registry := sys.registry.after i custom a s } i =
              sys.customMethod i := customMethod_congr (by rfl) same i
          exact method ▸ place
        · exact .inl idle
      · rw [List.getElem?_set_ne own] at here
        have place := manned.customs j ended other here
        rcases pending with same | ⟨⟨c, rfl⟩, -, -⟩
        · have method : customMethod { sys with registry := sys.registry.after i custom a s } j =
              sys.customMethod j := customMethod_congr (by rfl) same j
          exact method ▸ place
        · exact .inl (idle_other sound allowed (Ne.symm own) place)
    · rw [Registry.customRecorders_after, List.length_set]
      rcases pending with same | ⟨-, -, answered⟩
      · exact manned.pending r (same.symm.trans asked)
      · exact absurd (asked.symm.trans answered) (Option.some_ne_none r)
    · rw [Registry.customRecorders_after, List.length_set]
      exact manned.clearing j pc

theorem manned_step {a : Action X} (sound : Sound sys) (manned : Manned sys)
    (move : Move around sys a sys') : Manned sys' := by
  have quiet (pc : sys.pc = .serving) : sys.snapshot.caller = .idle := by
    have unmanned : sys.snapshotMethod = fun _ => false := by
      funext a
      simp [snapshotMethod, calls, pc]
    exact At.idle (unmanned ▸ manned.snapshot (by simp [pc, reset]))
  cases move with
  | input r idle => exact ⟨manned.snapshot, manned.customs, manned.pending, manned.clearing⟩
  | request r host reg idle handled => exact manned_request sound manned idle handled
  | getSnapshot idle =>
    obtain ⟨pc, unasked⟩ := idle_iff.mp idle
    refine ⟨fun _ => .inl ?_, fun i _ custom found => .inl ?_, manned.pending, fun j => by simp⟩
    · exact quiet pc
    · exact manned.idle sound unasked (by simp [pc]) (by simp [pc, past]) found
  | shutdown idle =>
    obtain ⟨pc, unasked⟩ := idle_iff.mp idle
    refine ⟨fun _ => .inl ?_, fun i _ custom found => .inl ?_, manned.pending, fun j => by simp⟩
    · exact quiet pc
    · exact manned.idle sound unasked (by simp [pc]) (by simp [pc, past]) found
  | snapshotCall a s called stepped => exact manned_snapshotCall sound manned called stepped
  | snapshotThread a s thread stepped =>
    have same := caller_thread (Recorder.step_move stepped).2 (by rintro c rfl; cases thread)
    refine ⟨fun on => ?_, manned.customs, manned.pending, manned.clearing⟩
    have place := manned.snapshot on
    unfold At at place ⊢
    rw [same]
    exact place
  | cleared i a custom s pc destructs found stepped =>
    exact manned_cleared sound manned pc destructs found stepped
  | custom i a reg other stepped => exact manned_custom sound manned stepped
  | closeDevice device devices pc =>
    exact ⟨fun on => absurd trivial on, fun i on => absurd trivial on, manned.pending, fun j on => by cases on⟩

theorem manned_run {host : Host X} {as : List (Action X)}
    (reached : run (step around) (initial around host) as = some sys) : Sound sys ∧ Manned sys := by
  refine run_invariant (I := fun sys => Sound sys ∧ Manned sys) reached
    ⟨sound_initial host, manned_initial host⟩ ?_
  rintro a - sys sys' stepped ⟨sound, manned⟩
  have move := (step_move stepped).2
  exact ⟨sound_step sound move, manned_step sound manned move⟩

/-- The handler or the destructor in progress is in the snapshot recorder. -/
def inSnapshot (sys : System X) : Bool :=
  match sys.pc with
  | .stopping | .starting | .resetting => true
  | _ => false

/-- The handler or the destructor in progress is in the custom recorder of this index. -/
def inCustom (sys : System X) (i : Nat) : Bool :=
  match sys.pc with
  | .serving => sys.registry.pending.any fun r => r.index.any fun index => index.toNat = i
  | .clearing j => i = j
  | _ => false

/-- The statements of the handler or the destructor in progress, and those of the two threads of the
recorder it is in; no other recorder's. -/
def serves (sys : System X) : Action X → Bool
  | .snapshot (.tick _) | .custom _ (.tick _) => false
  | .snapshot _ => sys.inSnapshot
  | .custom i _ => sys.inCustom i
  | .closeDevice => true
  | .input _ | .request _ _ | .getSnapshot | .shutdown => false

section Enabled

variable (alive : sys.terminated = false)

include alive

theorem snapshot_fault : sys.snapshot.fault = none := by
  simp only [terminated, Bool.or_eq_false_iff] at alive
  simpa using alive.1

theorem custom_fault {i : Nat} {custom : CustomRecorder X}
    (found : sys.registry.customRecorders[i]? = some custom) : custom.recorder.fault = none := by
  simp only [terminated, Registry.terminated, Bool.or_eq_false_iff, List.any_eq_false] at alive
  simpa using alive.2 custom (List.mem_of_getElem? found)

theorem snapshot_enabled (sound : Sound sys) (place : At sys.snapshotMethod sys.snapshot)
    (here : sys.inSnapshot = true) (first : CallerAction) (own : sys.calls (.caller first) = true)
    (begins : Recorder.Action.outside (.caller first) = true) :
    ∃ a sys', sys.serves a = true ∧ sys.step around a = some sys' := by
  have go {a : Recorder.Action} {s : Recorder.State X} (called : sys.calls a = true)
      (stepped : Recorder.step sys.snapshotConfig sys.snapshot a = some s) :
      ∃ sys', sys.step around (.snapshot a) = some sys' :=
    ⟨_, by simp [step, alive, stepSnapshot, called, stepped]; rfl⟩
  rcases method_enabled sound.snapshot (snapshot_fault alive) place own begins with
    ⟨a, s, thread, stepped⟩ | ⟨a, s, called, stepped⟩
  · cases a with
    | record a =>
      obtain ⟨sys', stepped⟩ := go rfl stepped
      exact ⟨.snapshot (.record a), sys', here, stepped⟩
    | buffer a =>
      obtain ⟨sys', stepped⟩ := go rfl stepped
      exact ⟨.snapshot (.buffer a), sys', here, stepped⟩
    | caller a => cases thread
    | tick n => cases thread
  · obtain ⟨sys', stepped⟩ := go called stepped
    exact ⟨.snapshot (.caller a), sys', here, stepped⟩

theorem custom_step {i : Nat} {a : Recorder.Action} {custom : CustomRecorder X}
    {s : Recorder.State X} (found : sys.registry.customRecorders[i]? = some custom)
    (other : sys.clears i a = false) (allowed : sys.registry.allows i a = true)
    (stepped : Recorder.step custom.cfg custom.recorder a = some s) :
    ∃ sys', sys.step around (.custom i a) = some sys' := by
  have running : sys.registry.terminated = false := (Bool.or_eq_false_iff.mp alive).2
  refine ⟨{ sys with registry := sys.registry.after i custom a s }, ?_⟩
  simp [step, alive, stepCustom, other, Registry.step, running, found, allowed, stepped]

theorem custom_enabled (sound : Sound sys) {i : Nat} {custom : CustomRecorder X}
    (found : sys.registry.customRecorders[i]? = some custom)
    (place : At (sys.customMethod i) custom.recorder) (here : sys.inCustom i = true)
    (first : CallerAction) (own : sys.customMethod i first = true)
    (begins : Recorder.Action.outside (.caller first) = true) :
    ∃ a sys', sys.serves a = true ∧ sys.step around a = some sys' := by
  have reached := sound.customs custom (List.mem_of_getElem? found)
  rcases method_enabled reached (custom_fault alive found) place own begins with
    ⟨a, s, thread, stepped⟩ | ⟨a, s, called, stepped⟩
  · cases a with
    | record a =>
      obtain ⟨sys', stepped⟩ := custom_step alive found rfl rfl stepped
      exact ⟨.custom i (.record a), sys', here, stepped⟩
    | buffer a =>
      obtain ⟨sys', stepped⟩ := custom_step alive found rfl rfl stepped
      exact ⟨.custom i (.buffer a), sys', here, stepped⟩
    | caller a => cases thread
    | tick n => cases thread
  · cases clearing : sys.clears i (.caller a) with
    | true =>
      refine ⟨.custom i (.caller a), { sys with registry := sys.registry.store i custom s
                                                pc := sys.afterCustom i s }, here, ?_⟩
      simp [step, alive, stepCustom, clearing, found, stepped]
    | false =>
      have allowed : sys.registry.allows i (.caller a) = true := by
        simpa [customMethod, clearing] using called
      obtain ⟨sys', stepped⟩ := custom_step alive found clearing allowed stepped
      exact ⟨.custom i (.caller a), sys', here, stepped⟩

end Enabled

/-- `getSnapshot` waits for the thread of the recorder, which waits for events. -/
def snapshotWaits : List (Action Unit) :=
  startSession.map .snapshot ++ [.getSnapshot, .snapshot (.caller .stopFlag),
    .snapshot (.caller .stopTime)]

section Snapshot

/-- The snapshot recorder's handle is joinable between requests and when it is stopped, and free when
it is started; nothing of its xkb objects is released before the destructor. -/
structure Ready (sys : System X) : Prop where
  continuous : sys.snapshotConfig.mContinuous = true
  held : sys.pc = .serving ∨ sys.pc = .stopping → sys.snapshot.mRecorderThread = true
  free : sys.pc = .starting → sys.snapshot.mRecorderThread = false
  xkb : sys.pc = .serving ∨ sys.pc = .stopping ∨ sys.pc = .starting →
    sys.snapshot.mXkbState ≠ .released ∧ sys.snapshot.fault = none
  fault : sys.snapshot.fault ≠ some .terminate

/-- In the destructor only the program's end matters. -/
theorem ready_late (continuous : sys.snapshotConfig.mContinuous = true)
    (fault : sys.snapshot.fault ≠ some .terminate) (late : sys.pc = .resetting ∨ reset sys.pc) :
    Ready sys := by
  have gone : sys.pc ≠ .serving ∧ sys.pc ≠ .stopping ∧ sys.pc ≠ .starting := by
    cases pc : sys.pc <;> simp_all [reset]
  refine ⟨continuous, ?_, fun pc => absurd pc gone.2.2, ?_, fault⟩
  · rintro (pc | pc)
    · exact absurd pc gone.1
    · exact absurd pc gone.2.1
  · rintro (pc | pc | pc)
    · exact absurd pc gone.1
    · exact absurd pc gone.2.1
    · exact absurd pc gone.2.2

theorem ready_initial (host : Host X) : Ready (initial around host) where
  continuous := rfl
  held pc := by simp [initial] at pc
  free _ := rfl
  xkb _ := by cases state : host.state <;> simp [initial, Recorder.initial, state]
  fault := by simp [initial, Recorder.initial]

/-- A continuous recorder whose session is over reads as inactive. -/
theorem ended_inactive {cfg : Config X} {s : Recorder.State X} (continuous : cfg.mContinuous = true)
    (reached : Reached cfg s) (ended : Ended s) : s.mStop = true := by
  obtain ⟨xkb, now, as, runs⟩ := reached
  have all : Base cfg s ∧ (Ended s → s.mStop = true) := by
    refine run_invariant (I := fun s => Base cfg s ∧ (Ended s → s.mStop = true)) runs
      ⟨base_initial xkb now, fun _ => rfl⟩ ?_
    rintro a - s s' stepped ⟨base, inactive⟩
    have move := (Recorder.step_move stepped).2
    refine ⟨base_step base move, ended_step base ?_ move inactive⟩
    exact fun _ fixed => absurd (fixed.symm.trans continuous) Bool.false_ne_true
  exact all.2 ended

theorem Ready.inactive (ready : Ready sys) (sound : Sound sys) (pc : sys.pc = .starting) :
    sys.snapshot.mStop = true := by
  refine ended_inactive ready.continuous sound.snapshot (.inl ?_)
  by_contra some
  have joinable := sound.snapshot.placed.1.joinable.mpr some
  exact absurd ((ready.free pc).symm.trans joinable) Bool.false_ne_true

/-- What a thread of a recorder leaves alone. -/
theorem thread_keeps {cfg : Config X} {s s' : Recorder.State X} {a : Recorder.Action}
    (move : Recorder.Move cfg s a s') (thread : isCaller a = false) (sound : s.fault ≠ some .terminate) :
    s'.mRecorderThread = s.mRecorderThread ∧ s'.fault ≠ some .terminate ∧
      (s.mXkbState ≠ .released ∧ s.fault = none → s'.mXkbState ≠ .released ∧ s'.fault = none) := by
  cases move with
  | caller m => cases thread
  | record m => cases m <;> simp_all [State.note]
  | buffer m => cases m <;> exact ⟨rfl, sound, id⟩
  | tick t => exact ⟨rfl, sound, id⟩

theorem ready_snapshotCall {a : CallerAction} {s : Recorder.State X} (sound : Sound sys)
    (ready : Ready sys) (called : sys.calls (.caller a) = true)
    (stepped : Recorder.step sys.snapshotConfig sys.snapshot (.caller a) = some s) :
    Ready { sys with snapshot := s, pc := sys.afterSnapshot s } := by
  have inactive := ready.inactive sound
  obtain ⟨continuous, held, free, xkb, fault⟩ := ready
  cases (Recorder.step_move stepped).2 with
  | caller m =>
    cases pc : sys.pc with
    | serving | clearing | closing => simp [calls, pc] at called
    | stopping =>
      have joinable := held (.inr pc)
      have unreleased := xkb (.inr (.inl pc))
      cases m with
      | stopFlag idle lock =>
        exact ⟨continuous, fun _ => joinable, by simp [afterSnapshot, pc], fun _ => unreleased, fault⟩
      | stopTime here =>
        exact ⟨continuous, fun _ => joinable, by simp [afterSnapshot, pc, State.note],
          fun _ => unreleased, fault⟩
      | stopJoin here _ ended =>
        exact ⟨continuous, by simp [afterSnapshot, pc, State.note], fun _ => rfl,
          fun _ => unreleased, fault⟩
      | joinThrows here unheld => exact absurd (unheld.symm.trans joinable) Bool.false_ne_true
      | _ => simp [calls, pc] at called
    | starting =>
      have unheld := free pc
      have unreleased := xkb (.inr (.inr pc))
      cases m with
      | startActive idle lock active => simp [State.isActive, inactive pc] at active
      | startInactive idle lock _ =>
        exact ⟨continuous, by simp [afterSnapshot, pc], fun _ => unheld, fun _ => unreleased, fault⟩
      | terminate here joinable => exact absurd (unheld.symm.trans joinable) Bool.false_ne_true
      | spawn here _ =>
        exact ⟨continuous, fun _ => rfl, by simp [afterSnapshot, pc, State.note],
          fun _ => unreleased, fault⟩
      | _ => simp [calls, pc] at called
    | resetting =>
      refine ready_late continuous ?_ ?_
      · cases m <;> first | exact fault | simp [calls, pc, destroys] at called
      · simp only [afterSnapshot, pc]
        split
        · exact .inr (reset_clearFrom ..)
        · exact .inl rfl

theorem ready_step {a : Action X} (sound : Sound sys) (ready : Ready sys)
    (move : Move around sys a sys') : Ready sys' := by
  cases move with
  | input r idle => exact ⟨ready.continuous, ready.held, ready.free, ready.xkb, ready.fault⟩
  | request r host reg idle handled =>
    exact ⟨ready.continuous, ready.held, ready.free, ready.xkb, ready.fault⟩
  | getSnapshot idle =>
    have pc := (idle_iff.mp idle).1
    exact ⟨ready.continuous, fun _ => ready.held (.inl pc), nofun, fun _ => ready.xkb (.inl pc), ready.fault⟩
  | shutdown idle => exact ready_late ready.continuous ready.fault (.inl rfl)
  | snapshotCall a s called stepped => exact ready_snapshotCall sound ready called stepped
  | snapshotThread a s thread stepped =>
    obtain ⟨handle, fault, xkb⟩ := thread_keeps (Recorder.step_move stepped).2 thread ready.fault
    exact ⟨ready.continuous, fun pc => handle.trans (ready.held pc),
      fun pc => handle.trans (ready.free pc), fun pc => xkb (ready.xkb pc), fault⟩
  | cleared i a custom s pc destructs found stepped =>
    refine ready_late ready.continuous ready.fault (.inr ?_)
    simp only [afterCustom]
    split
    · exact reset_clearFrom ..
    · simp [pc, reset]
  | custom i a reg other stepped =>
    exact ⟨ready.continuous, ready.held, ready.free, ready.xkb, ready.fault⟩
  | closeDevice device devices pc => exact ready_late ready.continuous ready.fault (.inr trivial)

/-- A first call of `getSnapshot`, up to the join. -/
def snapshotTaken : List (Action Unit) :=
  List.flatten [startSession.map .snapshot, [.getSnapshot],
    ([.caller .stopFlag, .caller .stopTime] : List Recorder.Action).map .snapshot,
    dumpWaiting.map .snapshot, (finishSession).map .snapshot]

end Snapshot

end System

end TestRunner.Server
