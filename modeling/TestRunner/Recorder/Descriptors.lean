import TestRunner.Recorder.Classify
import TestRunner.Recorder.Lifecycle
import Mathlib.Data.Set.Insert

/-! The descriptors that a recorder opens when it is made and closes when it is destroyed. -/
namespace TestRunner.Recorder

variable {X : Type} {cfg : Config X} {s s' : State X}

/-- Each descriptor that was opened is closed once, and what was open before is open after. -/
def Balanced (opened closed : List Int) : Prop :=
  (∀ fd ∈ opened, closed.count fd = 1) ∧
  ∀ before : Set Int, (∀ fd ∈ opened, fd ∉ before) →
    (before ∪ {fd | fd ∈ opened}) \ {fd | fd ∈ closed} = before

theorem balanced_self {fds : List Int} (distinct : fds.Nodup) : Balanced fds fds := by
  refine ⟨fun fd inside => List.count_eq_one_of_mem distinct inside, fun before fresh => ?_⟩
  ext fd
  constructor
  · rintro ⟨old | new, out⟩
    · exact old
    · exact absurd new out
  · exact fun old => ⟨.inl old, fun inside => fresh fd inside old⟩

theorem fds_availableDevices (prior : Nat → Stack) (nodes : List Node) :
    (findDevices prior (some nodes)).availableDevices.map InDevice.fd =
      (nodes.zipIdx.filter fun n => n.1.opens && (n.1.type (prior n.2)).isSome).map
        fun n => n.1.fd := by
  rw [availableDevices_findDevices, List.map_filterMap, ← List.filterMap_eq_map,
    List.filterMap_filter]
  apply List.filterMap_congr
  intro n _
  unfold Node.device
  cases opens : n.1.opens with
  | false => simp
  | true =>
    rw [inspect_eq]
    cases n.1.type (prior n.2) <;> simp

/-- The destructor is the only one that closes, and closes every device once. -/
theorem closed_step {a : Action} (move : Move cfg s a s')
    (h : s.closed = if s.caller = .destroyed then cfg.availableDevices.map InDevice.fd else []) :
    s'.closed = if s'.caller = .destroyed then cfg.availableDevices.map InDevice.fd else [] := by
  cases move with
  | caller m => cases m <;> simp_all [State.note]
  | record m => cases m <;> exact h
  | buffer m => cases m <;> exact h
  | tick t => exact h

theorem closed_run {xkb : Option X} {now : Nat} {as : List Action}
    (reached : run (step cfg) (initial cfg xkb now) as = some s) (destroyed : s.caller = .destroyed) :
    s.closed = cfg.availableDevices.map InDevice.fd := by
  have h := run_invariant reached
    (I := fun s => s.closed = if s.caller = .destroyed then cfg.availableDevices.map InDevice.fd else [])
    rfl fun a _ s t taken h => closed_step (step_move taken).2 h
  rwa [if_pos destroyed] at h

/-- After every history of a recorder that ends with its destruction, the descriptors that it
opened are balanced if and only if each device that could be opened has a class. Descriptors that
are open together differ. -/
theorem descriptors_balanced_iff {xkb : Option X} {now : Nat} {as : List Action}
    (prior : Nat → Stack) (nodes : List Node)
    (distinct : (findDevices prior (some nodes)).opened.Nodup)
    (made : cfg.availableDevices = (findDevices prior (some nodes)).availableDevices)
    (reached : run (step cfg) (initial cfg xkb now) as = some s) (destroyed : s.caller = .destroyed) :
    Balanced (findDevices prior (some nodes)).opened s.closed ↔
      ∀ n ∈ nodes.zipIdx, n.1.opens = true → (n.1.type (prior n.2)).isSome = true := by
  rw [closed_run reached destroyed, made, fds_availableDevices]
  constructor
  · intro balanced n inside opens
    have once := balanced.1 n.1.fd
      (opened_findDevices prior nodes ▸ List.mem_map.mpr ⟨n, List.mem_filter.mpr ⟨inside, opens⟩, rfl⟩)
    obtain ⟨m, listed, same⟩ := List.mem_map.mp (List.count_pos_iff.mp (by rw [once]; exact Nat.one_pos))
    obtain ⟨among, both⟩ := List.mem_filter.mp listed
    obtain ⟨opened, type⟩ := Bool.and_eq_true_iff.mp both
    rw [opened_findDevices] at distinct
    have one : m = n := List.inj_on_of_nodup_map distinct (List.mem_filter.mpr ⟨among, opened⟩)
      (List.mem_filter.mpr ⟨inside, opens⟩) same
    exact one ▸ type
  · intro classified
    have all : (nodes.zipIdx.filter fun n => n.1.opens && (n.1.type (prior n.2)).isSome) =
        nodes.zipIdx.filter fun n => n.1.opens := by
      apply List.filter_congr
      intro n inside
      cases opens : n.1.opens with
      | false => rfl
      | true => exact classified n inside opens
    rw [all, ← opened_findDevices]
    exact balanced_self distinct

/-- A recorder over the devices of a directory. -/
def directoryRecorder (nodes : List Node)
    (distinct : ((findDevices (fun _ => emptyStack) (some nodes)).availableDevices.map
      InDevice.fd).Nodup) : Config Unit :=
  { keyboardRecorder false 30 with
    availableDevices := (findDevices (fun _ => emptyStack) (some nodes)).availableDevices
    distinct := distinct }

def keyboardAndMouse : List Node :=
  [(eventNode 5 0x02 0 screenRange).node, (eventNode 6 0x04 0 screenRange).node]

def classless : List Node := [(eventNode 5 0x01 0 screenRange).node]

def destruction : List Action :=
  [.caller .unrefState, .caller .unrefKeymap, .caller .unrefCtx, .caller .checkJoinable,
   .caller .close]

theorem descriptors_balanced_two :
    ∃ s, run (step (directoryRecorder keyboardAndMouse (by decide)))
        (initial (directoryRecorder keyboardAndMouse (by decide)) none 0)
        (elapsedSession ++ stopCall ++ destruction) = some s ∧
      Balanced (findDevices (fun _ => emptyStack) (some keyboardAndMouse)).opened s.closed := by
  obtain ⟨s, reached, destroyed⟩ : ∃ s, run (step (directoryRecorder keyboardAndMouse (by decide)))
      (initial (directoryRecorder keyboardAndMouse (by decide)) none 0)
      (elapsedSession ++ stopCall ++ destruction) = some s ∧ s.caller = .destroyed := ⟨_, rfl, rfl⟩
  exact ⟨s, reached, (descriptors_balanced_iff (fun _ => emptyStack) keyboardAndMouse (by decide)
    rfl reached destroyed).mpr (by decide)⟩

/-- A device of no class is opened and never closed. -/
theorem descriptors_leak :
    (findDevices (fun _ => emptyStack) (some classless)).opened = [5] ∧
    ∃ s, run (step (directoryRecorder classless (by decide)))
        (initial (directoryRecorder classless (by decide)) none 0) destruction = some s ∧
      s.caller = .destroyed ∧ s.closed = [] ∧
      ¬ Balanced (findDevices (fun _ => emptyStack) (some classless)).opened s.closed := by
  have opened : (findDevices (fun _ => emptyStack) (some classless)).opened = [5] := by decide
  refine ⟨opened, _, rfl, rfl, rfl, fun balanced => ?_⟩
  have once := balanced.1 5 (by rw [opened]; exact List.mem_singleton_self 5)
  cases once

end TestRunner.Recorder
