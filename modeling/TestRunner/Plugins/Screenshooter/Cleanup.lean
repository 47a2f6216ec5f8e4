import TestRunner.Plugins.Screenshooter.Success
import Mathlib.Data.List.Perm.Subperm

/-! What a capture holds at each point of its history, and what its cleanup leaves. -/
namespace TestRunner.Screenshooter

open Resources CaptureState

def Entry.operation : Entry → Option (Op Handle)
  | .op o => some o
  | _ => none

def operations (log : List Entry) : List (Op Handle) := log.filterMap Entry.operation

def events (log : List Entry) : List Event := log.filterMap Entry.handled

/-- The interfaces that have one place each. -/
def singles : List String := ["weston_screenshooter", "wl_shm"]

/-- The two members of the state that name one proxy each. -/
inductive Slot where
  | shooter
  | shm

def Slot.interface : Slot → String
  | .shooter => "weston_screenshooter"
  | .shm => "wl_shm"

def Slot.other : Slot → Slot
  | .shooter => .shm
  | .shm => .shooter

def CaptureState.slot (s : CaptureState) : Slot → Option Proxy
  | .shooter => s.shooter
  | .shm => s.shm

/-- The event announces what is bound already. -/
def Repeats (before : List Event) (e : Event) : Prop :=
  ∃ interface ∈ singles, .global interface true ∈ before ∧ ∃ bound, e = .global interface bound

/-- No screenshooter and no `wl_shm` is announced after one that was bound. -/
def Apart : List Event → Prop :=
  List.Pairwise fun e e' => ¬ Repeats [e] e'

/-- The history of a capture that has ended. -/
def Outcome.log : Outcome → Option (List Entry)
  | .returned _ log | .threw log => some log
  | .waiting | .crashed => none

/-- The resources of the shared memory. -/
def shared : List Handle := [.memfd, .mapping, .pool, .buffer]

/-- The life of every resource while the display is connected and `bound` proxies were bound. -/
def table (bound : Nat) (memory : Handle → Life) : Handle → Life
  | .display | .registry => .live
  | .proxy p => if p < bound then .live else .unborn
  | h => memory h

/-- The proxies that the state still names. -/
def CaptureState.proxies (s : CaptureState) : List Proxy :=
  s.outputs.map OutputInfo.output ++ s.shm.toList ++ s.shooter.toList

/-- Different proxies, each of them bound. -/
def Owned (ps : List Proxy) (bound : Nat) : Prop := ps.Nodup ∧ ∀ p ∈ ps, p < bound

instance (before : List Event) (e : Event) : Decidable (Repeats before e) :=
  inferInstanceAs (Decidable (∃ interface ∈ singles, _ ∧ ∃ _ : Bool, _))

instance : DecidablePred Apart := fun log => inferInstanceAs (Decidable (log.Pairwise _))

variable {env : Env} {s t : CaptureState} {e : Event} {m m' : Handle → Life} {n : Nat}
  {ps qs : List Proxy} {before : List Event}

@[simp] theorem record_bound (entries : List Entry) : (s.record entries).bound = s.bound := rfl

@[simp] theorem record_outputs (entries : List Entry) : (s.record entries).outputs = s.outputs := rfl

@[simp] theorem record_shm (entries : List Entry) : (s.record entries).shm = s.shm := rfl

@[simp] theorem record_shooter (entries : List Entry) : (s.record entries).shooter = s.shooter := rfl

theorem record_log (entries : List Entry) : (s.record entries).log = s.log ++ entries := rfl

@[simp] theorem operations_nil : operations [] = [] := rfl

@[simp] theorem operations_cons (entry : Entry) (log : List Entry) :
    operations (entry :: log) = entry.operation.toList ++ operations log := by
  cases entry <;> rfl

@[simp] theorem operations_append (log log' : List Entry) :
    operations (log ++ log') = operations log ++ operations log' := List.filterMap_append

@[simp] theorem events_append (log log' : List Entry) :
    events (log ++ log') = events log ++ events log' := List.filterMap_append

theorem events_plain {log : List Entry} (plain : Plain log) : events log = [] := by
  apply List.filterMap_eq_nil_iff.mpr
  intro entry inside
  obtain ⟨op, rfl⟩ := plain entry inside
  rfl

theorem apart_snoc : Apart (before ++ [e]) ↔ Apart before ∧ ¬ Repeats before e := by
  rw [Apart, List.pairwise_append]
  apply and_congr_right
  intro apart
  constructor
  · rintro ⟨-, later⟩ ⟨interface, single, inside, bound, rfl⟩
    exact later _ inside _ (by simp) ⟨interface, single, by simp, bound, rfl⟩
  · intro new
    constructor
    · exact List.pairwise_singleton _ _
    · rintro e' inside _ last ⟨interface, single, same, bound, again⟩
      rw [List.mem_singleton] at same last
      subst same last
      exact new ⟨interface, single, inside, bound, again⟩

theorem repeats_single {interface : String} {bound : Bool} (single : interface ∈ singles) :
    Repeats before (.global interface bound) ↔ .global interface true ∈ before := by
  constructor
  · rintro ⟨interface', -, inside, bound', same⟩
    cases same
    exact inside
  · intro inside
    exact ⟨interface, single, inside, bound, rfl⟩

theorem not_repeats (other : ∀ interface ∈ singles, ∀ bound, e ≠ .global interface bound) :
    ¬ Repeats before e := by
  rintro ⟨interface, single, -, bound, same⟩
  exact other interface single bound same

theorem Owned.sublist (owned : Owned ps n) (fewer : qs.Sublist ps) : Owned qs n := by
  obtain ⟨nodup, below⟩ := owned
  constructor
  · exact nodup.sublist fewer
  · intro p inside
    exact below p (fewer.mem inside)

/-- The proxy that is bound next can take any place. -/
theorem Owned.insert (owned : Owned ps n) (front back : List Proxy)
    (fewer : (front ++ back).Sublist ps) : Owned (front ++ n :: back) (n + 1) := by
  obtain ⟨nodup, below⟩ := owned.sublist fewer
  constructor
  · apply List.nodup_middle.mpr
    apply List.nodup_cons.mpr
    constructor
    · intro inside
      exact absurd (below n inside) (Nat.lt_irrefl n)
    · exact nodup
  · intro p inside
    rcases List.mem_cons.mp (List.perm_middle.mem_iff.mp inside) with rfl | inside
    · exact Nat.lt_succ_self p
    · exact Nat.lt_succ_of_lt (below p inside)

theorem Owned.subperm (owned : Owned ps n) : ps.Subperm (List.range n) := by
  apply List.subperm_of_subset owned.1
  intro p inside
  exact List.mem_range.mpr (owned.2 p inside)

theorem Owned.length_le (owned : Owned ps n) : ps.length ≤ n := by
  simpa using owned.subperm.length_le

/-- All of them are there exactly if there are as many as were bound. -/
theorem Owned.full_iff (owned : Owned ps n) : (∀ p < n, p ∈ ps) ↔ ps.length = n := by
  constructor
  · intro all
    have whole : (List.range n).Subperm ps := by
      apply List.subperm_of_subset List.nodup_range
      intro p inside
      exact all p (List.mem_range.mp inside)
    have long := whole.length_le
    have short := owned.length_le
    simp only [List.length_range] at long
    omega
  · intro same p below
    have perm := owned.subperm.perm_of_length_le (by simp [same])
    exact perm.mem_iff.mpr (List.mem_range.mpr below)

theorem update_proxy (n : Nat) (m : Handle → Life) :
    Function.update (table n m) (.proxy n) .live = table (n + 1) m := by
  funext h
  by_cases own : h = .proxy n
  · subst own
    simp [table]
  · rw [Function.update_of_ne own]
    cases h with
    | proxy p =>
      have other : p ≠ n := by
        rintro rfl
        exact own rfl
      have same : p < n ↔ p < n + 1 := by
        constructor
        · exact Nat.lt_succ_of_lt
        · intro below
          exact Nat.lt_of_le_of_ne (Nat.le_of_lt_succ below) other
      exact if_congr same rfl rfl
    | _ => rfl

/-- An operation on the memory leaves the proxies alone. -/
theorem step_shared {op : Op Handle} (own : op.handle ∈ shared) :
    step (table n m) op = (step m op).map (table n) := by
  have same : ∀ life,
      Function.update (table n m) op.handle life = table n (Function.update m op.handle life) := by
    intro life
    simp only [shared, List.mem_cons, List.not_mem_nil, or_false] at own
    funext h
    rcases own with own | own | own | own <;> rw [own] <;> cases h <;> rfl
  have held : table n m op.handle = m op.handle := by
    simp only [shared, List.mem_cons, List.not_mem_nil, or_false] at own
    rcases own with own | own | own | own <;> rw [own] <;> rfl
  rw [step, step, held, Option.map_map]
  congr 1
  funext life
  exact same life

theorem use_display : step (table n m) (.use .display) = some (table n m) := step_use rfl

theorem use_registry : step (table n m) (.use .registry) = some (table n m) := step_use rfl

theorem use_proxy {p : Proxy} (below : p < n) :
    step (table n m) (.use (.proxy p)) = some (table n m) := step_use (if_pos below)

theorem bind_proxy : step (table n m) (.acquire (.proxy n)) = some (table (n + 1) m) := by
  have fresh : table n m (.proxy n) = .unborn := if_neg (Nat.lt_irrefl n)
  rw [step_acquire fresh, update_proxy]

/-- The books of a capture: nothing was done out of turn, the proxies that the state names are
bound, and one was lost exactly if an announcement was repeated. -/
structure Ledger (s : CaptureState) (m : Handle → Life) : Prop where
  ran : run step (fun _ => .unborn) (operations s.log) = some (table s.bound m)
  owned : Owned s.proxies s.bound
  kept : s.proxies.length = s.bound ↔ Apart (events s.log)
  slots : ∀ k, Apart (events s.log) →
    (s.slot k = none ↔ .global k.interface true ∉ events s.log)

theorem ledger_connected : Ledger connected fun _ => .unborn := by
  constructor
  · have done : operations connected.log =
        [.acquire .display, .use .display, .acquire .registry, .use .registry] := rfl
    rw [done]
    simp [run, step_acquire, step_use]
    funext h
    cases h <;> rfl
  · simp [Owned, proxies, connected]
  · exact iff_of_true rfl .nil
  · rintro (_ | _) - <;> exact iff_of_true rfl (by simp [connected, events, Entry.handled])

theorem Ledger.record {entries : List Entry} (ledger : Ledger s m) (silent : events entries = [])
    (ran : run step (table s.bound m) (operations entries) = some (table s.bound m')) :
    Ledger (s.record entries) m' := by
  have same : events (s.record entries).log = events s.log := by
    simp [record_log, silent]
  constructor
  · simpa [record_log, run_append, ledger.ran] using ran
  · exact ledger.owned
  · rw [same]
    exact ledger.kept
  · rw [same]
    exact ledger.slots

theorem Ledger.ran_append {entries : List Entry} {lives : Handle → Life} (ledger : Ledger s m)
    (ran : run step (table s.bound m) (operations entries) = some lives) :
    run step (fun _ => .unborn) (operations (s.log ++ entries)) = some lives := by
  rw [operations_append, run_append, ledger.ran, Option.bind_some, ran]

/-- A place that is filled or emptied keeps what was bound if it was free. -/
theorem slot_kept {slot : Option Proxy} {rest : Nat} {apart seen : Prop}
    (short : rest + slot.toList.length ≤ n) (kept : rest + slot.toList.length = n ↔ apart)
    (free : apart → (slot = none ↔ ¬ seen)) : rest = n ↔ apart ∧ ¬ seen := by
  cases slot with
  | none =>
    rw [← kept]
    constructor
    · intro same
      exact ⟨same, (free (kept.mp same)).mp rfl⟩
    · intro same
      exact same.1
  | some p =>
    rw [Option.toList_some, List.length_singleton] at short
    constructor
    · intro same
      omega
    · rintro ⟨apart, unseen⟩
      cases (free apart).mpr unseen

theorem Slot.single (k : Slot) : k.interface ∈ singles := by
  cases k <;> simp [interface, singles]

theorem Slot.interface_other (k : Slot) : k.other.interface ≠ k.interface := by
  cases k <;> simp [interface, other]

theorem Slot.eq_other {j k : Slot} (h : j ≠ k) : j = k.other := by
  cases j <;> cases k <;> first | rfl | exact absurd rfl h

theorem proxies_length (s : CaptureState) (k : Slot) : s.proxies.length =
    s.outputs.length + (s.slot k.other).toList.length + (s.slot k).toList.length := by
  cases k
  · simp [proxies, Slot.other, slot, Nat.add_assoc]
  · simp only [proxies, Slot.other, slot, List.length_append, List.length_map]
    omega

theorem Ledger.without (ledger : Ledger s m) (k : Slot) :
    s.outputs.length + (s.slot k.other).toList.length = s.bound ↔
      Apart (events s.log) ∧ ¬ .global k.interface true ∈ events s.log := by
  have short := ledger.owned.length_le
  have kept := ledger.kept
  rw [proxies_length s k] at short kept
  exact slot_kept short kept (ledger.slots k)

theorem handled_events (h : Handled s e t) : events t.log = events s.log ++ [e] := by
  obtain ⟨entries, round⟩ := handled_round h
  rw [round.log, events_append]
  exact congrArg _ round.handled

/-- An event that announces neither of the two. -/
theorem Ledger.other (ledger : Ledger s m) (h : Handled s e t)
    (other : ∀ interface ∈ singles, ∀ bound, e ≠ .global interface bound)
    (same : t.slot = s.slot)
    (ran : run step (fun _ => .unborn) (operations t.log) = some (table t.bound m))
    (owned : Owned t.proxies t.bound)
    (kept : t.proxies.length = t.bound ↔ s.proxies.length = s.bound) : Ledger t m := by
  have grown := handled_events h
  have apart : Apart (events t.log) ↔ Apart (events s.log) := by
    rw [grown, apart_snoc]
    exact and_iff_left (not_repeats other)
  have seen : ∀ interface ∈ singles,
      (.global interface true ∈ events t.log ↔ .global interface true ∈ events s.log) := by
    intro interface single
    rw [grown, List.mem_append, List.mem_singleton]
    exact or_iff_left (other interface single true).symm
  constructor
  · exact ran
  · exact owned
  · rw [kept, apart]
    exact ledger.kept
  · intro k
    rw [apart, same, seen k.interface k.single]
    exact ledger.slots k

/-- An announcement of one of the two fills its slot or empties it. -/
theorem Ledger.announced (ledger : Ledger s m) (k : Slot) {bound : Bool}
    (h : Handled s (.global k.interface bound) t) (rest : t.slot k.other = s.slot k.other)
    (own : t.slot k = if bound then some s.bound else none) (outputs : t.outputs = s.outputs)
    (count : t.bound = s.bound + bound.toNat)
    (ran : run step (fun _ => .unborn) (operations t.log) = some (table t.bound m))
    (owned : Owned t.proxies t.bound) : Ledger t m := by
  have grown := handled_events h
  have apart : Apart (events t.log) ↔
      Apart (events s.log) ∧ ¬ .global k.interface true ∈ events s.log := by
    rw [grown, apart_snoc, repeats_single k.single]
  constructor
  · exact ran
  · exact owned
  · rw [apart, ← ledger.without k, proxies_length t k, rest, own, outputs, count]
    cases bound
    · exact Iff.rfl
    · exact Nat.add_right_cancel_iff
  · intro j new
    obtain ⟨before, unseen⟩ := apart.mp new
    rw [grown, List.mem_append, List.mem_singleton]
    by_cases same : j = k
    · rw [same, own]
      cases bound <;> simp [unseen]
    · rw [Slot.eq_other same, rest, or_iff_left (by simp [k.interface_other])]
      exact ledger.slots k.other before

theorem Ledger.handled (ledger : Ledger s m) (h : Handled s e t) : Ledger t m := by
  cases h with
  | bindShooter =>
    apply ledger.announced .shooter .bindShooter rfl rfl rfl rfl
    · apply ledger.ran_append
      simp [Entry.operation, run, use_registry, bind_proxy]
    · exact ledger.owned.insert _ [] (by simp [proxies])
  | loseShooter =>
    apply ledger.announced .shooter .loseShooter rfl rfl rfl rfl
    · apply ledger.ran_append
      simp [Entry.operation, run, use_registry]
    · exact ledger.owned.sublist (by simp [proxies])
  | bindShm =>
    apply ledger.announced .shm .bindShm rfl rfl rfl rfl
    · apply ledger.ran_append
      simp [Entry.operation, run, use_registry, bind_proxy]
    · have place := ledger.owned.insert (s.outputs.map OutputInfo.output)
        s.shooter.toList (by simp [proxies])
      simpa [proxies] using place
  | loseShm =>
    apply ledger.announced .shm .loseShm rfl rfl rfl rfl
    · apply ledger.ran_append
      simp [Entry.operation, run, use_registry]
    · exact ledger.owned.sublist (by simp [proxies])
  | bindOutput =>
    apply ledger.other .bindOutput (by simp [singles]) rfl
    · apply ledger.ran_append
      simp [Entry.operation, run, use_registry, bind_proxy, use_proxy (Nat.lt_succ_self _)]
    · have place := ledger.owned.insert (s.outputs.map OutputInfo.output)
        (s.shm.toList ++ s.shooter.toList) (by simp [proxies])
      simpa [proxies] using place
    · rw [proxies_length _ .shooter, proxies_length s .shooter]
      simp [slot]
      omega
  | unknown interface bound other other' =>
    have apart : ∀ i ∈ singles, ∀ b, Event.global interface bound ≠ .global i b := by
      simp [singles, other, other']
    apply ledger.other (.unknown interface bound other other') apart rfl
    · exact ledger.ran_append rfl
    · exact ledger.owned
    · exact Iff.rfl
  | describe e outputs silent silent' same =>
    have kept :
        proxies (CaptureState.record { s with outputs := outputs } [.event e]) = s.proxies := by
      simp [proxies, same]
    apply ledger.other (.describe e outputs silent silent' same) (fun i _ => silent i) rfl
    · exact ledger.ran_append rfl
    · rw [kept]
      exact ledger.owned
    · rw [kept]
      exact Iff.rfl
  | report shooter listened =>
    apply ledger.other (.report shooter listened) (by simp) rfl
    · exact ledger.ran_append rfl
    · exact ledger.owned
    · exact Iff.rfl
  | ignored shooter unlistened =>
    apply ledger.other (.ignored shooter unlistened) (by simp) rfl
    · exact ledger.ran_append rfl
    · exact ledger.owned
    · exact Iff.rfl

theorem Ledger.dispatch {round : List Event} (ledger : Ledger s m)
    (h : s.dispatch round = some t) : Ledger t m := by
  apply run_invariant h
  · apply ledger.record rfl
    rw [operations_cons]
    exact Option.bind_eq_some_iff.mpr ⟨_, use_display, rfl⟩
  · intro e _ s t stepped ledger
    exact ledger.handled (handle_handled stepped)

theorem ready_ledger (begun : ready env = some s) : Ledger s fun _ => .unborn := by
  obtain ⟨m, first, second⟩ := Option.bind_eq_some_iff.mp begun
  exact (ledger_connected.dispatch first).dispatch second

theorem Ledger.waitDone {dispatches : List Dispatch} (ledger : Ledger s m)
    (h : s.waitDone dispatches = .ok t) : Ledger t m := by
  apply waitDone_invariant (I := fun t => Ledger t m) h ledger
  intro s t round dispatched ledger
  exact ledger.dispatch dispatched

theorem requests_events (env : Env) (shooter shm : Proxy) (selected : OutputInfo) :
    events (requests env shooter shm selected) = [] := by
  cases made : env.createBuffer <;> simp [requests, made, events, Entry.handled]

/-- While a shot is waited for, only the mapping and the buffer are left. -/
def mapped (env : Env) : Handle → Life
  | .memfd | .pool => .dead
  | .mapping => .live
  | .buffer => if env.createBuffer then .live else .unborn
  | _ => .unborn

/-- A use of what is held until the cleanup. -/
def Steady (n : Nat) (op : Op Handle) : Prop :=
  ∃ h, op = .use h ∧ (h = .display ∨ ∃ p < n, h = .proxy p)

/-- Between the operations on the memory, the uses of the rest change nothing. -/
theorem run_shared {trace : List (Op Handle)}
    (steady : ∀ op ∈ trace, op.handle ∈ shared ∨ Steady n op) :
    run step (table n m) trace =
      (run step m (trace.filter fun op => op.handle ∈ shared)).map (table n) := by
  induction trace generalizing m with
  | nil => rfl
  | cons op trace ih =>
    obtain ⟨first, rest⟩ := List.forall_mem_cons.mp steady
    rcases first with own | ⟨h, rfl, held⟩
    · rw [List.filter_cons_of_pos (by simpa using own), run, run, step_shared own, Option.map_bind,
        Option.bind_map]
      congr 1
      funext m
      exact ih rest
    · rcases held with rfl | ⟨p, below, rfl⟩
      · rw [List.filter_cons_of_neg (by simp [Op.handle, shared]), run, use_display]
        exact ih rest
      · rw [List.filter_cons_of_neg (by simp [Op.handle, shared]), run, use_proxy below]
        exact ih rest

theorem requests_ran (env : Env) {shooter shm : Proxy} {selected : OutputInfo}
    (shooterBound : shooter < n) (shmBound : shm < n) (outputBound : selected.output < n) :
    run step (table n fun _ => .unborn) (operations ([.op (.acquire .memfd), .op (.use .memfd),
      .op (.use .memfd)] ++ requests env shooter shm selected)) = some (table n (mapped env)) := by
  rw [run_shared]
  · cases made : env.createBuffer
    · simp [requests, made, Entry.operation, Op.handle, shared, run, step_acquire, step_use,
        step_release]
      funext h
      cases h <;> simp [table, mapped, made]
    · simp [requests, made, Entry.operation, Op.handle, shared, run, step_acquire, step_use,
        step_release]
      funext h
      cases h <;> simp [table, mapped, made]
  · cases made : env.createBuffer <;>
      simp [requests, made, Entry.operation, Op.handle, shared, Steady, shooterBound, shmBound,
        outputBound]

def Settled (m : Handle → Life) : Prop := ∀ h ∈ shared, m h ≠ .live

theorem unmapped_ran (env : Env) : ∃ m, Settled m ∧
    run step (table n (mapped env)) (operations ([.op (.use .mapping)] ++
      (if env.createBuffer then [.op (.release .buffer)] else []) ++
      [.op (.release .mapping)])) = some (table n m) := by
  refine ⟨fun h => if mapped env h = .unborn then .unborn else .dead, ?_, ?_⟩
  · intro h _
    dsimp only
    split_ifs <;> simp
  · have mapping : mapped env .mapping = .live := rfl
    rw [run_shared]
    · cases made : env.createBuffer
      · simp [Entry.operation, Op.handle, shared, run, step_use, step_release, mapping]
        funext h
        cases h <;> simp [table, mapped, made]
      · have buffer : mapped env .buffer = .live := by simp [mapped, made]
        simp [Entry.operation, Op.handle, shared, run, step_use, step_release, mapping, buffer]
        funext h
        cases h <;> simp [table, mapped, made]
    · cases env.createBuffer <;> simp [Entry.operation, Op.handle, shared]

/-- A capture that fails at the memory has closed it. -/
theorem closed_ran {held : List Entry} (closed : held = [] ∨ ∃ k, held =
      [.op (.acquire .memfd)] ++ List.replicate k (.op (.use .memfd)) ++ [.op (.release .memfd)]) :
    ∃ m, Settled m ∧ events held = [] ∧
      run step (table n fun _ => .unborn) (operations held) = some (table n m) := by
  rcases closed with rfl | ⟨k, rfl⟩
  · exact ⟨fun _ => .unborn, by simp [Settled], rfl, rfl⟩
  · have uses : operations (List.replicate k (.op (.use .memfd))) =
        List.replicate k (.use .memfd) := List.filterMap_replicate_of_some rfl
    refine ⟨fun h => if h = .memfd then .dead else .unborn, ?_, ?_, ?_⟩
    · intro h _
      dsimp only
      split_ifs <;> simp
    · apply events_plain
      intro entry inside
      simp at inside
      rcases inside with rfl | ⟨-, rfl⟩ | rfl <;> exact ⟨_, rfl⟩
    · rw [operations_append, operations_append, uses, run_append, run_append]
      have opened : run step (table n fun _ => .unborn) (operations [.op (.acquire .memfd)]) =
          some (table n (Function.update (fun _ => .unborn) .memfd .live)) := by
        rw [run_shared (by simp [Entry.operation, Op.handle, shared])]
        simp [Entry.operation, Op.handle, shared, run, step_acquire]
      have closes : run step (table n (Function.update (fun _ => .unborn) .memfd .live))
          (operations [.op (.release .memfd)]) =
            some (table n fun h => if h = .memfd then .dead else .unborn) := by
        rw [run_shared (by simp [Entry.operation, Op.handle, shared])]
        simp [Entry.operation, Op.handle, shared, run, step_release]
        funext h
        cases h <;> simp [table]
      rw [opened, Option.bind_some, run_use k rfl, Option.bind_some, closes]

theorem owned_eq (s : CaptureState) :
    s.owned = s.proxies.map Handle.proxy ++ [.registry, .display] := by
  simp [CaptureState.owned, proxies]

theorem cleanup_ran (ledger : Ledger s m) :
    run step (fun _ => .unborn) (operations s.cleanup.log) =
      some fun h => if h ∈ s.owned then .dead else table s.bound m h := by
  have releases : operations (s.owned.map fun h => .op (.release h)) = s.owned.map .release := by
    rw [operations, List.filterMap_map]
    exact congrFun List.filterMap_eq_map _
  have nodup : s.owned.Nodup := by
    have distinct : (s.proxies.map Handle.proxy).Nodup :=
      ledger.owned.1.map fun p q same => Handle.proxy.inj same
    simp [owned_eq, List.nodup_append, distinct]
  have held : ∀ h ∈ s.owned, table s.bound m h = .live := by
    intro h inside
    rw [owned_eq, List.mem_append] at inside
    rcases inside with inside | inside
    · obtain ⟨p, named, rfl⟩ := List.mem_map.mp inside
      exact if_pos (ledger.owned.2 p named)
    · simp only [List.mem_cons, List.not_mem_nil, or_false] at inside
      rcases inside with rfl | rfl <;> rfl
  apply ledger.ran_append
  rw [releases]
  exact run_release nodup held

/-- The cleanup after settled memory releases everything, if nothing was lost before it. -/
theorem cleanup_released (ledger : Ledger s m) (settled : Settled m) :
    (ReleasedOnce (operations s.cleanup.log) ∧ Unused (operations s.cleanup.log)) ↔
      Apart (events s.cleanup.log) := by
  have ran := cleanup_ran ledger
  obtain ⟨tail, grown, plain⟩ := cleanup_log s
  have same : events s.cleanup.log = events s.log := by
    rw [grown, events_append, events_plain plain, List.append_nil]
  rw [same, ← ledger.kept, ← ledger.owned.full_iff, releasedOnce_iff ran,
    and_iff_left (unused_of_run ran)]
  constructor
  · intro ended p below
    by_contra lost
    exact ended (.proxy p) (by simp [owned_eq, lost, table, below])
  · intro all h
    cases h with
    | proxy p =>
      by_cases below : p < s.bound
      · simp [owned_eq, all p below]
      · have unnamed : p ∉ s.proxies := by
          intro named
          exact below (ledger.owned.2 p named)
        simp [owned_eq, table, below, unnamed]
    | display => simp [owned_eq]
    | registry => simp [owned_eq]
    | memfd => simpa [owned_eq, table] using settled .memfd (by simp [shared])
    | mapping => simpa [owned_eq, table] using settled .mapping (by simp [shared])
    | pool => simpa [owned_eq, table] using settled .pool (by simp [shared])
    | buffer => simpa [owned_eq, table] using settled .buffer (by simp [shared])

theorem select_mem {outputs : List OutputInfo} {selected : OutputInfo}
    (chosen : select outputs = some selected) : selected ∈ outputs := by
  rcases Option.or_eq_some_iff.mp chosen with found | ⟨-, first⟩
  · exact List.mem_of_find?_eq_some found
  · exact List.mem_of_head? first

variable {shooter shm : Proxy} {selected : OutputInfo}

/-- The books after the loop. -/
theorem shot_ledger (begun : ready env = some s) (found : s.shooter = some shooter)
    (found' : s.shm = some shm) (chosen : select s.outputs = some selected)
    (waited : (CaptureState.record { s with listening := some shooter }
      ([.op (.acquire .memfd), .op (.use .memfd), .op (.use .memfd)] ++
        requests env shooter shm selected)).waitDone env.dispatches = .ok t) :
    Ledger t (mapped env) := by
  obtain ⟨ran, owned, kept, slots⟩ := ready_ledger begun
  have listening : Ledger { s with listening := some shooter } fun _ => .unborn :=
    ⟨ran, owned, kept, slots⟩
  have output : selected.output ∈ s.outputs.map OutputInfo.output :=
    List.mem_map_of_mem (select_mem chosen)
  have asked := requests_ran env (owned.2 shooter (by simp [proxies, found]))
    (owned.2 shm (by simp [proxies, found'])) (owned.2 selected.output (by simp [proxies, output]))
  refine (listening.record ?_ asked).waitDone waited
  rw [events_append, requests_events]
  rfl

/-- A capture that has ended has released everything once and used nothing after it, if and only if
no screenshooter and no `wl_shm` was announced after one that was bound and a shot could be
copied. -/
theorem released_once_iff (env : Env) (log : List Entry) (ended : (capture env).log = some log) :
    (ReleasedOnce (operations log) ∧ Unused (operations log)) ↔
      Apart (events log) ∧ ∀ shooter, .shoot shooter ∈ log → env.copies = true := by
  have captured := capture_captured env
  generalize capture env = outcome at ended captured
  cases captured with
  | unconnected error told =>
    cases Option.some.inj ended
    simp [ReleasedOnce, Unused, Apart, events]
  | waiting => cases ended
  | crashed => cases ended
  | failed s held error told begun closed =>
    obtain rfl := Option.some.inj ended
    obtain ⟨m, settled, silent, ran⟩ := closed_ran closed
    rw [cleanup_released ((ready_ledger begun).record silent ran) settled]
    apply Iff.symm
    apply and_iff_left
    intro shooter inside
    exact absurd inside (failed_unshot begun closed shooter)
  | shot s t shooter shm selected begun found found' chosen waited =>
    have ledger := shot_ledger begun found found' chosen waited
    obtain ⟨before, after, asked, -⟩ := shot_log begun waited
    unfold copyOut at ended
    dsimp only at ended
    split at ended
    · rename_i copied
      obtain ⟨m, settled, ran⟩ := unmapped_ran (n := t.bound) env
      obtain rfl := Option.some.inj ended
      rw [record_record, record_record, and_iff_left fun _ _ => copied]
      refine cleanup_released (ledger.record ?_ ran) settled
      cases env.createBuffer <;> rfl
    · rename_i uncopied
      obtain rfl := Option.some.inj ended
      have ran : run step (fun _ => .unborn) (operations (t.log ++ [.op (.use .mapping)])) =
          some (table t.bound (mapped env)) :=
        ledger.ran_append (Option.bind_eq_some_iff.mpr ⟨_, step_use rfl, rfl⟩)
      apply iff_of_false
      · rintro ⟨released, -⟩
        exact (releasedOnce_iff ran).mp released .display rfl
      · rintro ⟨-, copied⟩
        exact uncopied (copied shooter (by simp [record_log, asked]))

theorem screen_released : ∃ log, (capture (screen [⟨[.done 0], 1⟩])).log = some log ∧
    ReleasedOnce (operations log) ∧ Unused (operations log) := by
  refine ⟨_, rfl, (released_once_iff (screen [⟨[.done 0], 1⟩]) _ rfl).mpr ⟨?_, fun _ _ => rfl⟩⟩
  decide

/-- A compositor that announces its screenshooter twice. -/
def twice : Env :=
  { screen [⟨[.done 1], 1⟩] with
    roundtrip := [.global "weston_screenshooter" true, .global "weston_screenshooter" true,
      .global "wl_shm" true, .global "wl_output" true]
    secondRoundtrip := [.geometry 3 (some "DP-1"), .mode 3 1 2 1] }

/-- The first of the two screenshooters is never destroyed. -/
theorem twice_unreleased : ∃ log, (capture twice).log = some log ∧
    .acquire (.proxy 0) ∈ operations log ∧ .release (.proxy 0) ∉ operations log ∧
    ¬ (ReleasedOnce (operations log) ∧ Unused (operations log)) := by
  refine ⟨_, rfl, by decide, by decide, ?_⟩
  rintro ⟨once, -⟩
  have released := once (.proxy 0) (by decide)
  exact absurd released (by decide)

end TestRunner.Screenshooter
