import TestRunner.Server.Uinput
import Mathlib.Data.List.Nodup

/-! The life of the device descriptors, from construction to destruction of the server. -/
namespace TestRunner.Server

def Syscall.Uses (fd : Int) : Syscall → Prop
  | .openUinput => False
  | .ioctl fd' _ | .write fd' _ | .close fd' => fd' = fd

def Syscall.destroyed : Syscall → Option Int
  | .ioctl fd .uiDevDestroy => some fd
  | _ => none

def Syscall.closed : Syscall → Option Int
  | .close fd => some fd
  | _ => none

def Done.opened (d : Done) : Option Int :=
  if d.call = .openUinput ∧ 0 ≤ d.result then some d.result else none

def Done.created (d : Done) : Option Int :=
  match d.call with
  | .ioctl fd .uiDevCreate => if 0 ≤ d.result then some fd else none
  | _ => none

def Done.refused (d : Done) : Option Int :=
  match d.call with
  | .ioctl fd .uiDevCreate => if 0 ≤ d.result then none else some fd
  | _ => none

/- The descriptors that are destroyed and closed, in order. -/
def destroyed (trace : List Done) : List Int := (trace.map Done.call).filterMap Syscall.destroyed
def closed (trace : List Done) : List Int := (trace.map Done.call).filterMap Syscall.closed

theorem destroyed_append (xs ys : List Done) :
    destroyed (xs ++ ys) = destroyed xs ++ destroyed ys := by
  simp [destroyed]

theorem closed_append (xs ys : List Done) : closed (xs ++ ys) = closed xs ++ closed ys := by
  simp [closed]

/-- Descriptors are closed once and not used after, refused devices are not written to, and
created ones are destroyed once, no descriptor twice. -/
structure Orderly (trace : List Done) : Prop where
  closed_once : ∀ fd ∈ trace.filterMap Done.opened, (closed trace).count fd = 1
  unused : trace.Pairwise fun a b => ∀ fd, a.call.closed = some fd → ¬ b.call.Uses fd
  unwritten : trace.Pairwise fun a b => ∀ fd, a.refused = some fd → ∀ ev, b.call ≠ .write fd ev
  destroyed_once : ∀ fd ∈ trace.filterMap Done.created, (destroyed trace).count fd = 1
  not_twice : (destroyed trace).Nodup

/-- The calls of a setup function that gets the descriptor, and whether its device is refused. -/
inductive Setup (fd : Int) : Bool → List Done → Prop where
  | unopened (negative : fd < 0) : Setup fd false [⟨.openUinput, fd⟩]
  | created (opened : 0 ≤ fd) (requests : List Ioctl) (config : List Done) (r : Int)
      (plain : ∀ request ∈ requests, request ≠ .uiDevCreate ∧ request ≠ .uiDevDestroy)
      (made : config.map Done.call = requests.map (Syscall.ioctl fd)) (ok : 0 ≤ r) :
      Setup fd false ([⟨.openUinput, fd⟩] ++ config ++ [⟨.ioctl fd .uiDevCreate, r⟩])
  | refused (opened : 0 ≤ fd) (requests : List Ioctl) (config : List Done) (r e : Int)
      (plain : ∀ request ∈ requests, request ≠ .uiDevCreate ∧ request ≠ .uiDevDestroy)
      (made : config.map Done.call = requests.map (Syscall.ioctl fd)) (failed : r < 0) :
      Setup fd true ([⟨.openUinput, fd⟩] ++ config ++ [⟨.ioctl fd .uiDevCreate, r⟩] ++
        [⟨.ioctl fd .uiDevDestroy, e⟩])

theorem setupVirtual_setup (result : Nat → Int) (requests : List Ioctl) (trace : List Done)
    (plain : ∀ request ∈ requests, request ≠ .uiDevCreate ∧ request ≠ .uiDevDestroy) :
    ∃ refused block, (setupVirtual result requests trace).2 = trace ++ block ∧
      Setup (setupVirtual result requests trace).1 refused block := by
  by_cases opened : 0 ≤ result trace.length
  · obtain ⟨config, same, made⟩ := performAll_append result
      (requests.map (.ioctl (result trace.length))) (perform result trace .openUinput)
    obtain ⟨t, configured⟩ : ∃ t, t = trace ++ ([⟨.openUinput, result trace.length⟩] ++ config) :=
      ⟨_, rfl⟩
    have prepared : performAll result (perform result trace .openUinput)
        (requests.map (.ioctl (result trace.length))) = t := by
      rw [same, configured, perform, List.append_assoc]
    obtain ⟨create, created⟩ : ∃ d : Done,
      d = ⟨.ioctl (result trace.length) .uiDevCreate, result t.length⟩ := ⟨_, rfl⟩
    obtain ⟨destroy, destroyed⟩ : ∃ d : Done, d = ⟨.ioctl (result trace.length) .uiDevDestroy,
      result (t ++ [create]).length⟩ := ⟨_, rfl⟩
    have calls : setupVirtual result requests trace =
        (result trace.length,
          if result t.length < 0 then t ++ [create] ++ [destroy] else t ++ [create]) := by
      rw [destroyed, created]
      simp only [setupVirtual, ge_iff_le, if_pos opened, prepared]
      rfl
    rw [calls]
    by_cases failed : result t.length < 0
    · refine ⟨true, [⟨.openUinput, result trace.length⟩] ++ config ++ [create] ++ [destroy], ?_, ?_⟩
      · simp only [if_pos failed]
        simp only [configured, List.append_assoc]
      · rw [created, destroyed]
        exact .refused opened requests config _ _ plain made failed
    · refine ⟨false, [⟨.openUinput, result trace.length⟩] ++ config ++ [create], ?_, ?_⟩
      · simp only [if_neg failed]
        simp only [configured, List.append_assoc]
      · rw [created]
        exact .created opened requests config _ plain made (not_lt.mp failed)
  · have calls : setupVirtual result requests trace =
        (result trace.length, trace ++ [⟨.openUinput, result trace.length⟩]) := by
      simp only [setupVirtual, ge_iff_le, if_neg opened, perform]
    rw [calls]
    exact ⟨false, _, rfl, .unopened (not_le.mp opened)⟩

theorem mouseRequests_plain :
    ∀ request ∈ mouseRequests, request ≠ .uiDevCreate ∧ request ≠ .uiDevDestroy := by
  decide

theorem keyboardRequests_plain :
    ∀ request ∈ keyboardRequests, request ≠ .uiDevCreate ∧ request ≠ .uiDevDestroy := by
  intro request inside
  simp only [keyboardRequests, uinputSetup, List.mem_append, List.mem_map, List.mem_singleton]
    at inside
  rcases inside with (rfl | ⟨key, -, rfl⟩) | rfl <;> simp

theorem touchscreenRequests_plain :
    ∀ request ∈ touchscreenRequests, request ≠ .uiDevCreate ∧ request ≠ .uiDevDestroy := by
  decide

theorem multiTouchscreenRequests_plain :
    ∀ request ∈ multiTouchscreenRequests, request ≠ .uiDevCreate ∧ request ≠ .uiDevDestroy := by
  decide

def VirtualDevice.pick {α : Type} (mouse keyboard touchscreen multiTouchscreen : α) :
    VirtualDevice → α
  | .mouse => mouse
  | .keyboard => keyboard
  | .touchscreen => touchscreen
  | .multiTouchscreen => multiTouchscreen

theorem construct_setup (result : Nat → Int) :
    ∃ (refused : VirtualDevice → Bool) (block : VirtualDevice → List Done),
      (∀ device, Setup ((construct result).1 device) (refused device) (block device)) ∧
      (construct result).2 = allDevices.flatMap block := by
  obtain ⟨ra, a, ha, mouse⟩ := setupVirtual_setup result mouseRequests [] mouseRequests_plain
  obtain ⟨rb, b, hb, keyboard⟩ :=
    setupVirtual_setup result keyboardRequests (setupVirtualMouse result []).2 keyboardRequests_plain
  obtain ⟨rc, c, hc, touchscreen⟩ := setupVirtual_setup result touchscreenRequests
    (setupVirtualKeyboard result (setupVirtualMouse result []).2).2 touchscreenRequests_plain
  obtain ⟨rd, d, hd, multi⟩ := setupVirtual_setup result multiTouchscreenRequests
    (setupVirtualTouchscreen result (setupVirtualKeyboard result (setupVirtualMouse result []).2).2).2
    multiTouchscreenRequests_plain
  refine ⟨VirtualDevice.pick ra rb rc rd, VirtualDevice.pick a b c d, ?_, ?_⟩
  · intro device
    cases device with
    | mouse => exact mouse
    | keyboard => exact keyboard
    | touchscreen => exact touchscreen
    | multiTouchscreen => exact multi
  · have all : (construct result).2 = [] ++ a ++ b ++ c ++ d := by
      rw [← ha]
      refine hd.trans (congrArg (· ++ d) ?_)
      refine hc.trans (congrArg (· ++ c) ?_)
      exact hb
    simp [all, allDevices, VirtualDevice.pick]

/-- The calls of `close_input_device`. -/
def closing (fd : Int) : List Syscall :=
  if fd < 0 then [] else [.ioctl fd .uiDevDestroy, .close fd]

theorem destruct_calls (result : Nat → Int) (fds : List Int) (trace : List Done) :
    fds.foldl (closeInputDevice result) trace = performAll result trace (fds.flatMap closing) := by
  induction fds generalizing trace with
  | nil => rfl
  | cons fd fds ih =>
    have one : closeInputDevice result trace fd = performAll result trace (closing fd) := by
      unfold closeInputDevice closing
      split <;> rfl
    rw [List.foldl_cons, ih, one, List.flatMap_cons, performAll, performAll, performAll,
      List.foldl_append]

/-- The calls of the setups, then those of the requests and of the destructor. -/
theorem lifetime_calls (result : Nat → Int) (mXkbKeymap : Option Keymap)
    (xkbKeysymFromName : List UInt8 → UInt32) (requests : List Request) :
    ∃ rest, lifetime result mXkbKeymap xkbKeysymFromName requests = (construct result).2 ++ rest ∧
      rest.map Done.call =
        (TestRunnerServer.writes ⟨(construct result).1, mXkbKeymap, xkbKeysymFromName⟩ requests).map
            (fun w => .write w.fd w.ev) ++
          (allDevices.map (construct result).1).flatMap closing := by
  unfold lifetime destruct
  simp only [destruct_calls]
  obtain ⟨rest, same, made⟩ := performAll_append result
    ((TestRunnerServer.writes ⟨(construct result).1, mXkbKeymap, xkbKeysymFromName⟩ requests).map
        (fun w => .write w.fd w.ev) ++
      (allDevices.map (construct result).1).flatMap closing) (construct result).2
  refine ⟨rest, ?_, made⟩
  rw [← same, performAll, performAll, performAll, List.foldl_append]

section Setup

variable {fd : Int} {refused : Bool} {block : List Done}

/-- The calls between opening and creating are plain requests on the descriptor. -/
theorem config_call {requests : List Ioctl} {config : List Done}
    (plain : ∀ request ∈ requests, request ≠ .uiDevCreate ∧ request ≠ .uiDevDestroy)
    (made : config.map Done.call = requests.map (Syscall.ioctl fd)) {d : Done} (inside : d ∈ config) :
    ∃ request, d.call = .ioctl fd request ∧ request ≠ .uiDevCreate ∧ request ≠ .uiDevDestroy := by
  have call : d.call ∈ requests.map (Syscall.ioctl fd) := made ▸ List.mem_map_of_mem inside
  obtain ⟨request, known, same⟩ := List.mem_map.mp call
  exact ⟨request, same.symm, plain request known⟩

theorem config_projections {requests : List Ioctl} {config : List Done}
    (plain : ∀ request ∈ requests, request ≠ .uiDevCreate ∧ request ≠ .uiDevDestroy)
    (made : config.map Done.call = requests.map (Syscall.ioctl fd)) :
    config.filterMap Done.opened = [] ∧ config.filterMap Done.created = [] ∧
      config.filterMap Done.refused = [] ∧ destroyed config = [] ∧ closed config = [] := by
  have call := fun {d} => config_call plain made (d := d)
  refine ⟨?_, ?_, ?_, ?_, ?_⟩
  all_goals first | rw [destroyed, List.filterMap_map] | rw [closed, List.filterMap_map] | skip
  all_goals
    rw [List.filterMap_eq_nil_iff]
    intro d inside
    obtain ⟨request, same, notCreate, notDestroy⟩ := call inside
    cases request <;>
      simp_all [Done.opened, Done.created, Done.refused, Syscall.destroyed, Syscall.closed]

theorem Setup.opened (setup : Setup fd refused block) :
    block.filterMap Done.opened = if 0 ≤ fd then [fd] else [] := by
  cases setup with
  | unopened negative => simp [Done.opened, not_le.mpr negative]
  | created opened requests config r plain made ok =>
    simp [(config_projections plain made).1, Done.opened, opened]
  | refused opened requests config r e plain made failed =>
    simp [(config_projections plain made).1, Done.opened, opened]

theorem Setup.creations (setup : Setup fd refused block) :
    block.filterMap Done.created = if 0 ≤ fd ∧ refused = false then [fd] else [] := by
  cases setup with
  | unopened negative => simp [Done.created, not_le.mpr negative]
  | created opened requests config r plain made ok =>
    simp only [List.filterMap_append, (config_projections plain made).2.1]
    simp [Done.created, ok, opened]
  | refused opened requests config r e plain made failed =>
    simp only [List.filterMap_append, (config_projections plain made).2.1]
    simp [Done.created, not_le.mpr failed]

theorem Setup.refusals (setup : Setup fd refused block) :
    block.filterMap Done.refused = if refused then [fd] else [] := by
  cases setup with
  | unopened negative => simp [Done.refused]
  | created opened requests config r plain made ok =>
    simp only [List.filterMap_append, (config_projections plain made).2.2.1]
    simp [Done.refused, ok]
  | refused opened requests config r e plain made failed =>
    simp only [List.filterMap_append, (config_projections plain made).2.2.1]
    simp [Done.refused, List.filterMap_cons, not_le.mpr failed]

/-- A refused device is destroyed at once. -/
theorem Setup.destroyed (setup : Setup fd refused block) :
    destroyed block = if refused then [fd] else [] := by
  cases setup with
  | unopened negative => rfl
  | created opened requests config r plain made ok =>
    rw [destroyed_append, destroyed_append, (config_projections plain made).2.2.2.1]
    rfl
  | refused opened requests config r e plain made failed =>
    rw [destroyed_append, destroyed_append, destroyed_append,
      (config_projections plain made).2.2.2.1]
    rfl

theorem Setup.closed (setup : Setup fd refused block) : closed block = [] := by
  cases setup with
  | unopened negative => rfl
  | created opened requests config r plain made ok =>
    rw [closed_append, closed_append, (config_projections plain made).2.2.2.2]
    rfl
  | refused opened requests config r e plain made failed =>
    rw [closed_append, closed_append, closed_append, (config_projections plain made).2.2.2.2]
    rfl

theorem Setup.refused_opened (setup : Setup fd refused block) (h : refused = true) : 0 ≤ fd := by
  cases setup with
  | unopened => cases h
  | created => cases h
  | refused opened => exact opened

end Setup

section Closing

theorem closing_one (fd : Int) :
    (closing fd).filterMap Syscall.closed = [fd].filter (0 ≤ ·) ∧
      (closing fd).filterMap Syscall.destroyed = [fd].filter (0 ≤ ·) := by
  by_cases opened : 0 ≤ fd
  · rw [closing, if_neg (not_lt.mpr opened), List.filter_singleton, decide_eq_true opened]
    exact ⟨rfl, rfl⟩
  · rw [closing, if_pos (not_le.mp opened), List.filter_singleton, decide_eq_false opened]
    exact ⟨rfl, rfl⟩

/-- The destructor closes and destroys the opened descriptors, each once. -/
theorem closing_all (fds : List Int) :
    (fds.flatMap closing).filterMap Syscall.closed = fds.filter (0 ≤ ·) ∧
      (fds.flatMap closing).filterMap Syscall.destroyed = fds.filter (0 ≤ ·) := by
  induction fds with
  | nil => exact ⟨rfl, rfl⟩
  | cons fd fds ih =>
    have head : (fd :: fds).filter (0 ≤ ·) = [fd].filter (0 ≤ ·) ++ fds.filter (0 ≤ ·) := by
      rw [← List.filter_append, List.singleton_append]
    rw [List.flatMap_cons, List.filterMap_append, List.filterMap_append, head, ih.1, ih.2,
      (closing_one fd).1, (closing_one fd).2]
    exact ⟨rfl, rfl⟩

theorem closing_uses {fds : List Int} {call : Syscall} (inside : call ∈ fds.flatMap closing)
    {fd : Int} (uses : call.Uses fd) : fd ∈ fds.filter (0 ≤ ·) := by
  obtain ⟨fd', known, here⟩ := List.mem_flatMap.mp inside
  unfold closing at here
  split at here
  · cases here
  · rename_i opened
    have same : fd' = fd := by
      rcases List.mem_cons.mp here with rfl | last
      · exact uses
      · cases List.mem_singleton.mp last
        exact uses
    subst same
    exact List.mem_filter.mpr ⟨known, decide_eq_true (not_lt.mp opened)⟩

/-- Nothing that is closed is used again by the destructor. -/
theorem closing_unused {fds : List Int} (distinct : (fds.filter (0 ≤ ·)).Nodup) :
    (fds.flatMap closing).Pairwise fun a b => ∀ fd, a.closed = some fd → ¬ b.Uses fd := by
  induction fds with
  | nil => exact .nil
  | cons fd fds ih =>
    rw [List.flatMap_cons]
    by_cases opened : 0 ≤ fd
    · rw [List.filter_cons_of_pos (by simpa using opened), List.nodup_cons] at distinct
      simp only [closing, if_neg (not_lt.mpr opened), List.cons_append, List.nil_append,
        List.pairwise_cons]
      refine ⟨?_, ?_, ih distinct.2⟩
      · intro b _ fd' impossible
        cases impossible
      · intro b later fd' same uses
        cases same
        exact distinct.1 (closing_uses later uses)
    · rw [List.filter_cons_of_neg (by simpa using opened)] at distinct
      simpa [closing, not_le.mp opened] using ih distinct

end Closing

/-- The kernel gives no descriptor that is in use: the opened ones are distinct. -/
def DistinctOpened (mDeviceFd : VirtualDevice → Int) : Prop :=
  ∀ a b, 0 ≤ mDeviceFd a → mDeviceFd a = mDeviceFd b → a = b

theorem opened_nodup {mDeviceFd : VirtualDevice → Int} (distinct : DistinctOpened mDeviceFd) :
    ((allDevices.map mDeviceFd).filter (0 ≤ ·)).Nodup := by
  rw [List.filter_map]
  refine List.Nodup.map_on ?_ ((by decide : allDevices.Nodup).filter _)
  intro a inside b _ same
  exact distinct a b (of_decide_eq_true (List.mem_filter.mp inside).2) same

/-- No device that could be opened is refused by the kernel. -/
def NoneRefused (result : Nat → Int) : Prop :=
  ∀ fd r, (⟨.ioctl fd .uiDevCreate, r⟩ : Done) ∈ (construct result).2 → 0 ≤ r

theorem noneRefused_iff (result : Nat → Int) :
    NoneRefused result ↔ (construct result).2.filterMap Done.refused = [] := by
  rw [List.filterMap_eq_nil_iff]
  constructor
  · intro none d inside
    unfold Done.refused
    split
    · rename_i fd call
      exact if_pos (none fd d.result (call ▸ inside))
    · rfl
  · intro none fd r inside
    have accepted := none _ inside
    simp only [Done.refused] at accepted
    split at accepted
    · assumption
    · cases accepted

/-- What the calls of a whole life come to, by the descriptors they are about. -/
structure Accounts (mDeviceFd : VirtualDevice → Int) (trace : List Done) (gone : List Int) : Prop where
  opened : trace.filterMap Done.opened = (allDevices.map mDeviceFd).filter (0 ≤ ·)
  created : ∀ fd ∈ trace.filterMap Done.created, fd ∈ (allDevices.map mDeviceFd).filter (0 ≤ ·)
  refused : trace.filterMap Done.refused = gone
  destroyed : destroyed trace = gone ++ (allDevices.map mDeviceFd).filter (0 ≤ ·)
  closed : closed trace = (allDevices.map mDeviceFd).filter (0 ≤ ·)
  known : ∀ fd ∈ gone, fd ∈ (allDevices.map mDeviceFd).filter (0 ≤ ·)

section Lifetime

variable {mDeviceFd : VirtualDevice → Int} {refused : VirtualDevice → Bool}
  {block : VirtualDevice → List Done}
  (setup : ∀ device, Setup (mDeviceFd device) (refused device) (block device))

include setup

theorem setups_opened (devices : List VirtualDevice) :
    (devices.flatMap block).filterMap Done.opened = (devices.map mDeviceFd).filter (0 ≤ ·) := by
  induction devices with
  | nil => rfl
  | cons device devices ih =>
    rw [List.flatMap_cons, List.filterMap_append, ih, (setup device).opened, List.map_cons,
      List.filter_cons]
    split <;> simp_all

theorem setups_created (devices : List VirtualDevice) :
    ∀ fd ∈ (devices.flatMap block).filterMap Done.created,
      fd ∈ (devices.map mDeviceFd).filter (0 ≤ ·) := by
  intro fd inside
  rw [List.filterMap_flatMap] at inside
  obtain ⟨device, known, here⟩ := List.mem_flatMap.mp inside
  rw [(setup device).creations] at here
  split at here
  · rename_i opened
    rw [List.mem_singleton.mp here]
    exact List.mem_filter.mpr ⟨List.mem_map_of_mem known, decide_eq_true opened.1⟩
  · cases here

theorem setups_refused (devices : List VirtualDevice) :
    (devices.flatMap block).filterMap Done.refused =
      devices.flatMap fun device => if refused device then [mDeviceFd device] else [] := by
  rw [List.filterMap_flatMap]
  simp only [(setup _).refusals]

theorem setups_destroyed (devices : List VirtualDevice) :
    destroyed (devices.flatMap block) =
      devices.flatMap fun device => if refused device then [mDeviceFd device] else [] := by
  induction devices with
  | nil => rfl
  | cons device devices ih =>
    rw [List.flatMap_cons, destroyed_append, ih, (setup device).destroyed, List.flatMap_cons]

theorem setups_closed (devices : List VirtualDevice) : closed (devices.flatMap block) = [] := by
  induction devices with
  | nil => rfl
  | cons device devices ih => rw [List.flatMap_cons, closed_append, ih, (setup device).closed]; rfl

end Lifetime

section Rest

variable {rest : List Done} {writes : List Write} {fds : List Int}
  (made : rest.map Done.call = writes.map (fun w => .write w.fd w.ev) ++ fds.flatMap closing)

include made

/-- Calls after the setups: events that are written, then the destructor. -/
theorem rest_calls {d : Done} (inside : d ∈ rest) :
    (∃ fd ev, d.call = .write fd ev) ∨
      ∃ fd, d.call = .ioctl fd .uiDevDestroy ∨ d.call = .close fd := by
  have known : d.call ∈ rest.map Done.call := List.mem_map_of_mem inside
  rw [made] at known
  rcases List.mem_append.mp known with write | close
  · obtain ⟨w, -, same⟩ := List.mem_map.mp write
    exact .inl ⟨w.fd, w.ev, same.symm⟩
  · obtain ⟨fd, -, here⟩ := List.mem_flatMap.mp close
    unfold closing at here
    split at here
    · cases here
    · exact .inr ⟨fd, by simpa using here⟩

theorem rest_filterMap {view : Done → Option Int}
    (write : ∀ d fd ev, d.call = .write fd ev → view d = none)
    (destroy : ∀ d fd, d.call = .ioctl fd .uiDevDestroy → view d = none)
    (close : ∀ d fd, d.call = .close fd → view d = none) : rest.filterMap view = [] := by
  rw [List.filterMap_eq_nil_iff]
  intro d inside
  rcases rest_calls made inside with ⟨fd, ev, same⟩ | ⟨fd, same | same⟩
  · exact write d fd ev same
  · exact destroy d fd same
  · exact close d fd same

theorem rest_opened : rest.filterMap Done.opened = [] := by
  apply rest_filterMap made <;> intros <;> simp [Done.opened, *]

theorem rest_created : rest.filterMap Done.created = [] := by
  apply rest_filterMap made <;> intros <;> simp [Done.created, *]

theorem rest_refused : rest.filterMap Done.refused = [] := by
  apply rest_filterMap made <;> intros <;> simp [Done.refused, *]

theorem rest_destroyed : destroyed rest = fds.filter (0 ≤ ·) := by
  have silent : (writes.map (fun w => Syscall.write w.fd w.ev)).filterMap Syscall.destroyed = [] := by
    simp [Syscall.destroyed]
  rw [destroyed, made, List.filterMap_append, silent, (closing_all fds).2]
  rfl

theorem rest_closed : closed rest = fds.filter (0 ≤ ·) := by
  have silent : (writes.map (fun w => Syscall.write w.fd w.ev)).filterMap Syscall.closed = [] := by
    simp [Syscall.closed]
  rw [closed, made, List.filterMap_append, silent, (closing_all fds).1]
  rfl

end Rest

theorem lifetime_accounts (result : Nat → Int) (mXkbKeymap : Option Keymap)
    (xkbKeysymFromName : List UInt8 → UInt32) (requests : List Request) :
    Accounts (construct result).1 (lifetime result mXkbKeymap xkbKeysymFromName requests)
      ((construct result).2.filterMap Done.refused) := by
  obtain ⟨refused, block, setup, built⟩ := construct_setup result
  obtain ⟨rest, same, made⟩ := lifetime_calls result mXkbKeymap xkbKeysymFromName requests
  rw [same, built]
  have gone := setups_refused setup allDevices
  constructor
  · rw [List.filterMap_append, rest_opened made, List.append_nil]
    exact setups_opened setup allDevices
  · rw [List.filterMap_append, rest_created made, List.append_nil]
    exact setups_created setup allDevices
  · rw [List.filterMap_append, rest_refused made, List.append_nil]
  · rw [destroyed_append, rest_destroyed made, setups_destroyed setup, gone]
  · rw [closed_append, rest_closed made, setups_closed setup]
    rfl
  · intro fd inside
    rw [gone] at inside
    obtain ⟨device, known, here⟩ := List.mem_flatMap.mp inside
    split at here
    · rename_i isRefused
      rw [List.mem_singleton.mp here]
      exact List.mem_filter.mpr ⟨List.mem_map_of_mem known,
        decide_eq_true ((setup device).refused_opened isRefused)⟩
    · cases here

theorem lifetime_unused (result : Nat → Int) (mXkbKeymap : Option Keymap)
    (xkbKeysymFromName : List UInt8 → UInt32) (requests : List Request)
    (distinct : DistinctOpened (construct result).1) :
    (lifetime result mXkbKeymap xkbKeysymFromName requests).Pairwise
      fun a b => ∀ fd, a.call.closed = some fd → ¬ b.call.Uses fd := by
  obtain ⟨refused, block, setup, built⟩ := construct_setup result
  obtain ⟨rest, same, made⟩ := lifetime_calls result mXkbKeymap xkbKeysymFromName requests
  have open_before : ∀ d ∈ (construct result).2, d.call.closed = none := by
    have none := setups_closed setup allDevices
    rw [closed, List.filterMap_map, List.filterMap_eq_nil_iff, ← built] at none
    exact none
  rw [same, List.pairwise_append]
  refine ⟨?_, ?_, ?_⟩
  · refine List.Pairwise.imp_of_mem ?_ (List.pairwise_of_forall (R := fun _ _ => True) fun _ _ => trivial)
    intro a b inside _ _ fd closes
    cases (open_before a inside).symm.trans closes
  · have calls : (rest.map Done.call).Pairwise
        fun a b => ∀ fd, a.closed = some fd → ¬ b.Uses fd := by
      rw [made, List.pairwise_append]
      refine ⟨?_, closing_unused (opened_nodup distinct), ?_⟩
      · rw [List.pairwise_map]
        exact List.pairwise_of_forall fun _ _ _ => nofun
      · intro a inside
        obtain ⟨w, -, rfl⟩ := List.mem_map.mp inside
        exact fun _ _ _ => nofun
    exact List.pairwise_map.mp calls
  · intro a inside b _ fd closes
    cases (open_before a inside).symm.trans closes

/-- Whatever calls fail, descriptors are opened, destroyed and closed in order, unless a device
that could be opened is refused: that one is destroyed twice. -/
theorem descriptors_orderly (result : Nat → Int) (mXkbKeymap : Option Keymap)
    (xkbKeysymFromName : List UInt8 → UInt32) (requests : List Request)
    (distinct : DistinctOpened (construct result).1) :
    Orderly (lifetime result mXkbKeymap xkbKeysymFromName requests) ↔ NoneRefused result := by
  have accounts := lifetime_accounts result mXkbKeymap xkbKeysymFromName requests
  have once := opened_nodup distinct
  rw [noneRefused_iff]
  constructor
  · intro orderly
    refine List.eq_nil_iff_forall_not_mem.mpr ?_
    intro fd gone
    have twice := orderly.not_twice
    rw [accounts.destroyed] at twice
    exact (List.nodup_append.mp twice).2.2 fd gone fd (accounts.known fd gone) rfl
  · intro none
    have destroyed := accounts.destroyed
    have accepted := accounts.refused
    rw [none] at destroyed accepted
    constructor
    · intro fd inside
      rw [accounts.opened] at inside
      rw [accounts.closed]
      exact List.count_eq_one_of_mem once inside
    · exact lifetime_unused result mXkbKeymap xkbKeysymFromName requests distinct
    · refine List.Pairwise.imp_of_mem ?_ (List.pairwise_of_forall (R := fun _ _ => True) fun _ _ => trivial)
      intro a b inside _ _ fd refused
      cases (List.filterMap_eq_nil_iff.mp accepted a inside).symm.trans refused
    · intro fd inside
      rw [destroyed]
      exact List.count_eq_one_of_mem once (accounts.created fd inside)
    · rw [destroyed]
      exact once

/-- Every call succeeds, with a new number, but the opening of the keyboard. -/
def keyboardMissing : Nat → Int := fun n => if n = 12 then -1 else n

def missingRun (requests : List Request) : List Done :=
  lifetime keyboardMissing none (fun _ => xkbKeyNoSymbol) requests

theorem descriptors_orderly_missing :
    Orderly (missingRun [.mouseMove ⟨1, 2⟩]) ↔ NoneRefused keyboardMissing :=
  descriptors_orderly keyboardMissing none (fun _ => xkbKeyNoSymbol) [.mouseMove ⟨1, 2⟩] (by
    have mouse : (construct keyboardMissing).1 .mouse = 0 := by decide
    have keyboard : (construct keyboardMissing).1 .keyboard = -1 := by decide
    have touchscreen : (construct keyboardMissing).1 .touchscreen = 13 := by decide
    have multi : (construct keyboardMissing).1 .multiTouchscreen = 24 := by decide
    intro a b opened same
    cases a <;> cases b <;> simp [mouse, keyboard, touchscreen, multi] at opened same ⊢)

/-- The mouse is opened as descriptor 5, and refused; everything else fails to open. -/
def mouseRefused : Nat → Int := fun n => if n = 0 then 5 else -1

theorem refused_destroyed_twice :
    DistinctOpened (construct mouseRefused).1 ∧
    ¬ Orderly (lifetime mouseRefused none (fun _ => xkbKeyNoSymbol) [.mouseMove ⟨1, 2⟩]) ∧
    destroyed (lifetime mouseRefused none (fun _ => xkbKeyNoSymbol) [.mouseMove ⟨1, 2⟩]) = [5, 5] := by
  have twice : destroyed (lifetime mouseRefused none (fun _ => xkbKeyNoSymbol) [.mouseMove ⟨1, 2⟩]) =
      [5, 5] := by decide
  refine ⟨?_, ?_, twice⟩
  · intro a b opened same
    cases a <;> cases b <;> first | rfl | (exact absurd same (by decide)) | (exact absurd opened (by decide))
  · intro orderly
    have nodup := orderly.not_twice
    rw [twice] at nodup
    exact absurd nodup (by decide)

end TestRunner.Server
