import TestRunner.Plugins.Metrics

/-! The replies of the daemon, whose status is not read: which documents each call of the plugin
takes for its metrics. -/
namespace TestRunner

theorem isSome_bind_iff {A B : Type} {o : Option A} {f : A → Option B} {P Q : Prop}
    (first : o.isSome = true ↔ P) (rest : ∀ a, (f a).isSome = true ↔ Q) :
    (o >>= f).isSome = true ↔ P ∧ Q := by
  rw [← first]
  cases o with
  | none => simp
  | some a => simp [rest]

theorem isSome_bind_exists {A B : Type} {o : Option A} {f : A → Option B} {P : A → Prop}
    (rest : ∀ a, o = some a → ((f a).isSome = true ↔ P a)) :
    (o >>= f).isSome = true ↔ ∃ a, o = some a ∧ P a := by
  cases o with
  | none => simp
  | some a => simp [rest a rfl]

theorem isSome_bind_pure {A B : Type} {o : Option A} {f : A → B} :
    (o >>= fun a => pure (f a)).isSome = true ↔ o.isSome = true := by
  cases o <;> simp

theorem isSome_mapM_iff {A B : Type} {f : A → Option B} {xs : List A} :
    (xs.mapM f).isSome = true ↔ ∀ x ∈ xs, (f x).isSome = true := by
  induction xs with
  | nil => simp
  | cons x xs ih =>
    rw [List.mapM_cons, List.forall_mem_cons, ← ih]
    apply isSome_bind_iff Iff.rfl
    intro y
    cases xs.mapM f <;> simp

namespace Json

variable {F : Type} {j : Json F} {key : String}

/-- The values that convert to a number: a boolean does too. -/
def isArithmetic : Json F → Bool
  | .boolean _ | .integer _ | .float _ => true
  | _ => false

/-- An object in which each of these members is missing or converts to a number. -/
def Numbers (names : List String) (j : Json F) : Prop :=
  j.isObject = true ∧ ∀ name ∈ names, ∀ v, j.atKey name = some v → v.isArithmetic = true

/-- An array of such elements, or a value that a loop over its size takes for an empty one. -/
def Elements (P : Json F → Prop) (j : Json F) : Prop :=
  ∃ elements, j.elements = some elements ∧ ∀ e ∈ elements, P e

theorem isSome_value {A : Type} {get : Json F → Option A} {otherwise : A} {P : Json F → Prop}
    (converts : ∀ v, (get v).isSome = true ↔ P v) (object : j.isObject = true) :
    (j.value get otherwise key).isSome = true ↔ ∀ v, j.atKey key = some v → P v := by
  unfold value
  rw [if_pos object]
  cases found : j.atKey key with
  | none => simp
  | some v => simp [converts]

theorem value_of_not_object {A : Type} {get : Json F → Option A} {otherwise : A}
    (other : ¬ j.isObject = true) : j.value get otherwise key = none := if_neg other

theorem isObject_of_atKey {v : Json F} (found : j.atKey key = some v) : j.isObject = true := by
  cases j <;> first | rfl | cases found

theorem isSome_valueString (object : j.isObject = true) :
    (j.valueString key).isSome = true ↔
      ∀ v, j.atKey key = some v → ∃ bytes, v = .string bytes := by
  apply isSome_value _ object
  intro v
  cases v <;> simp [getString]

theorem isSome_elements {A : Type} {f : Json F → Option A} {P : Json F → Prop}
    (each : ∀ e, (f e).isSome = true ↔ P e) :
    (j.elements >>= fun elements => elements.mapM f).isSome = true ↔ Elements P j := by
  apply isSome_bind_exists
  intro elements _
  simp only [isSome_mapM_iff, each]

variable [Doubles F]

theorem isSome_getInt (v : Json F) : v.getInt.isSome = true ↔ v.isArithmetic = true := by
  cases v <;> simp [getInt, isArithmetic]

theorem isSome_valueU64 (object : j.isObject = true) :
    (j.valueU64 key).isSome = true ↔ ∀ v, j.atKey key = some v → v.isArithmetic = true :=
  isSome_value (fun v => by rw [Option.isSome_map, isSome_getInt]) object

theorem isSome_valueU32 (object : j.isObject = true) :
    (j.valueU32 key).isSome = true ↔ ∀ v, j.atKey key = some v → v.isArithmetic = true :=
  isSome_value (fun v => by rw [Option.isSome_map, isSome_getInt]) object

theorem valueU64_of_not_object (other : ¬ j.isObject = true) : j.valueU64 key = none :=
  value_of_not_object other

theorem valueU32_of_not_object (other : ¬ j.isObject = true) : j.valueU32 key = none :=
  value_of_not_object other

end Json

namespace AglHealth

open Json

variable {F : Type} [Doubles F] {j : Json F}

theorem isSome_getNumberUnsigned (v : Json F) :
    v.getNumberUnsigned.isSome = true ↔ IsNumber v := by
  cases v <;> simp [getNumberUnsigned, IsNumber]

theorem isSome_getNumberFloat (v : Json F) : v.getNumberFloat.isSome = true ↔ IsNumber v := by
  cases v <;> simp [getNumberFloat, IsNumber]

section Records

theorem isSome_fillMemory :
    (fillMemory j).isSome = true ↔ Numbers (({} : AglMemorySnapshot).members.map Member.name) j := by
  unfold fillMemory Numbers
  by_cases object : j.isObject = true
  · simp only [object, true_and, AglMemorySnapshot.members, u64, u32, List.map_cons, List.map_nil,
      List.forall_mem_cons]
    iterate 9 apply isSome_bind_iff (isSome_valueU64 object); intro _
    iterate 2 apply isSome_bind_iff (isSome_valueU32 object); intro _
    apply isSome_bind_iff (isSome_valueU64 object); intro _
    simp
  · simp [valueU64_of_not_object object, object]

theorem isSome_fillCore :
    (fillCore j).isSome = true ↔ Numbers (({} : AglCoreStats).members.map Member.name) j := by
  unfold fillCore Numbers
  by_cases object : j.isObject = true
  · simp only [object, true_and, AglCoreStats.members, u64, u32, List.map_cons, List.map_nil,
      List.forall_mem_cons]
    apply isSome_bind_iff (isSome_valueU32 object); intro _
    iterate 7 apply isSome_bind_iff (isSome_valueU64 object); intro _
    simp
  · simp [valueU32_of_not_object object, object]

theorem isSome_fillTcp :
    (fillTcp j).isSome = true ↔ Numbers (({} : AglTcpStateSnapshot).members.map Member.name) j := by
  unfold fillTcp Numbers
  by_cases object : j.isObject = true
  · simp only [object, true_and, AglTcpStateSnapshot.members, u64, List.map_cons, List.map_nil,
      List.forall_mem_cons]
    iterate 12 apply isSome_bind_iff (isSome_valueU64 object); intro _
    simp
  · simp [valueU64_of_not_object object, object]

theorem isSome_fillSecurity :
    (fillSecurity j).isSome = true ↔
      Numbers (({} : AglSecuritySnapshot).members.map Member.name) j := by
  unfold fillSecurity Numbers
  by_cases object : j.isObject = true
  · simp only [object, true_and, AglSecuritySnapshot.members, u64, List.map_cons, List.map_nil,
      List.forall_mem_cons]
    iterate 6 apply isSome_bind_iff (isSome_valueU64 object); intro _
    simp
  · simp [valueU64_of_not_object object, object]

/-- The bytes of an array that come before its first 0 convert to numbers. -/
def IsComm (v : Json F) : Prop :=
  (∃ bytes, v = .string bytes) ∨ ∃ bytes, v = .array bytes ∧
    ∀ b ∈ bytes.takeWhile (fun b => b.getInt.map UInt8.ofInt ≠ some 0), b.isArithmetic = true

theorem isSome_commBytes (bytes : List (Json F)) :
    (commBytes bytes).isSome = true ↔
      ∀ b ∈ bytes.takeWhile (fun b => b.getInt.map UInt8.ofInt ≠ some 0), b.isArithmetic = true := by
  induction bytes with
  | nil => simp [commBytes]
  | cons b bytes ih =>
    rw [commBytes, List.takeWhile_cons]
    cases read : b.getInt.map UInt8.ofInt with
    | none =>
      have other : ¬ b.isArithmetic = true := by
        rw [← isSome_getInt]
        simpa using read
      simp [other]
    | some c =>
      have arithmetic : b.isArithmetic = true := by
        rw [← isSome_getInt, ← Option.isSome_map, read]
        rfl
      by_cases zero : c = 0
      · simp [zero]
      · simp only [Option.bind_eq_bind, Option.bind_some, if_neg zero]
        rw [if_pos (by simpa using zero), List.forall_mem_cons, ← ih]
        simp [arithmetic, Option.isSome_iff_exists, Option.bind_eq_some_iff]

theorem isSome_comm (object : j.isObject = true) :
    (comm j).isSome = true ↔ ∀ v, j.atKey "comm" = some v → IsComm v := by
  unfold comm
  cases found : j.atKey "comm" with
  | none => simp [isSome_valueString object, found]
  | some v =>
    cases v with
    | array bytes => simp [isSome_commBytes, IsComm]
    | string bytes => simp [isSome_valueString object, found, IsComm]
    | _ => simp [isSome_valueString object, found, IsComm]

theorem isSome_fillProcess :
    (fillProcess j).isSome = true ↔
      Numbers (({} : AglProcessStats).members.map Member.name) j ∧
        ∀ v, j.atKey "comm" = some v → IsComm v := by
  unfold fillProcess Numbers
  by_cases object : j.isObject = true
  · simp only [object, true_and, AglProcessStats.members, u64, u32, List.map_cons, List.map_nil,
      List.forall_mem_cons, List.not_mem_nil, IsEmpty.forall_iff, implies_true, true_and, and_assoc]
    iterate 4 apply isSome_bind_iff (isSome_valueU32 object); intro _
    iterate 11 apply isSome_bind_iff (isSome_valueU64 object); intro _
    apply isSome_bind_iff (isSome_valueU32 object); intro _
    rw [← isSome_comm object]
    exact isSome_bind_pure
  · simp [valueU32_of_not_object object, object]

theorem isSome_fillIface :
    (fillIface j).isSome = true ↔
      Numbers (({} : AglNetIfaceStats).members.map Member.name) j ∧
        ∀ v, j.atKey "name" = some v → ∃ bytes, v = .string bytes := by
  unfold fillIface Numbers
  by_cases object : j.isObject = true
  · simp only [object, true_and, AglNetIfaceStats.members, u64, u32, List.map_cons, List.map_nil,
      List.forall_mem_cons]
    rw [and_assoc]
    apply isSome_bind_iff (isSome_valueU32 object); intro _
    rw [and_comm]
    apply isSome_bind_iff (isSome_valueString object); intro _
    iterate 8 apply isSome_bind_iff (isSome_valueU64 object); intro _
    simp
  · simp [valueU32_of_not_object object, object]

end Records

def CpuShape (load cores : Json F) : Prop :=
  IsLoad load ∧ Elements (Numbers (({} : AglCoreStats).members.map Member.name)) cores

def ProcessesShape (arr : Json F) : Prop :=
  Elements (fun p => Numbers (({} : AglProcessStats).members.map Member.name) p ∧
    ∀ v, p.atKey "comm" = some v → IsComm v) arr

def NetworkShape (ifaces tcp : Json F) : Prop :=
  Elements (fun i => Numbers (({} : AglNetIfaceStats).members.map Member.name) i ∧
    ∀ v, i.atKey "name" = some v → ∃ bytes, v = .string bytes) ifaces ∧
  Numbers (({} : AglTcpStateSnapshot).members.map Member.name) tcp

/-- Of the buckets the first eight are read. -/
def SchedulerShape (j : Json F) : Prop :=
  ∃ hist, j.atKey "histogram" = some hist ∧
    (∃ buckets, hist.atKey "buckets" = some buckets ∧
      ∃ elements, buckets.elements = some elements ∧ ∀ e ∈ elements.take 8, IsNumber e) ∧
    Numbers (({} : AglSchedulerSnapshot).histogramMembers.map Member.name) hist ∧
    Numbers (({} : AglSchedulerSnapshot).members.map Member.name) j

theorem isSome_valueDouble {load : Json F} {key : String} (object : load.isObject = true) :
    (load.valueDouble key).isSome = true ↔ ∀ v, load.atKey key = some v → IsNumber v :=
  isSome_value isSome_getNumberFloat object

theorem isSome_fillCpu :
    (fillCpu j).isSome = true ↔
      ∃ load, j.atKey "load" = some load ∧ ∃ cores, j.atKey "cores" = some cores ∧
        CpuShape load cores := by
  apply isSome_bind_exists
  intro load _
  apply isSome_bind_exists
  intro cores _
  unfold CpuShape IsLoad
  by_cases object : load.isObject = true
  · simp only [object, true_and, List.forall_mem_cons, List.not_mem_nil, IsEmpty.forall_iff,
      implies_true, and_assoc]
    iterate 3 apply isSome_bind_iff (isSome_valueDouble object); intro _
    rw [← bind_assoc, ← and_true (Elements _ cores)]
    apply isSome_bind_iff (isSome_elements fun c => isSome_fillCore (j := c)); intro _
    simp
  · simp [valueDouble, value_of_not_object object, object]

theorem isSome_fillProcesses : (fillProcesses j).isSome = true ↔ ProcessesShape j :=
  isSome_elements fun _ => isSome_fillProcess

theorem isSome_fillNetwork :
    (fillNetwork j).isSome = true ↔
      ∃ ifaces, j.atKey "ifaces" = some ifaces ∧ ∃ tcp, j.atKey "tcp" = some tcp ∧
        NetworkShape ifaces tcp := by
  apply isSome_bind_exists
  intro ifaces _
  rw [← bind_assoc]
  unfold NetworkShape
  simp only [and_left_comm (b := Elements _ ifaces), exists_and_left]
  apply isSome_bind_iff (isSome_elements fun _ => isSome_fillIface); intro _
  apply isSome_bind_exists
  intro tcp _
  rw [← isSome_fillTcp]
  exact isSome_bind_pure

theorem isSome_getBucket {elements : List (Json F)} {i : Nat} :
    (getBucket elements i).isSome = true ↔ ∀ e, elements[i]? = some e → IsNumber e := by
  unfold getBucket
  cases elements[i]? with
  | none => simp
  | some e => simp [isSome_getNumberUnsigned]

theorem forall_take_iff {A : Type} {P : A → Prop} {xs : List A} {n : Nat} :
    (∀ x ∈ xs.take n, P x) ↔ ∀ i ∈ List.range n, ∀ x, xs[i]? = some x → P x := by
  constructor
  · intro all i inside x found
    apply all x (List.mem_of_getElem? (i := i) _)
    rw [List.getElem?_take_of_lt (List.mem_range.mp inside), found]
  · intro all x inside
    obtain ⟨i, found⟩ := List.mem_iff_getElem?.mp inside
    rw [List.getElem?_take] at found
    split at found
    · rename_i below
      exact all i (List.mem_range.mpr below) x found
    · cases found

theorem isSome_fillScheduler : (fillScheduler j).isSome = true ↔ SchedulerShape j := by
  apply isSome_bind_exists
  intro hist found
  have object := isObject_of_atKey found
  simp only [← exists_and_right, and_assoc]
  apply isSome_bind_exists
  intro buckets found'
  have object' := isObject_of_atKey found'
  apply isSome_bind_exists
  intro elements _
  have first : List.range 8 = [0, 1, 2, 3, 4, 5, 6, 7] := rfl
  unfold Numbers
  simp only [forall_take_iff, first, object, object', true_and, AglSchedulerSnapshot.members,
    AglSchedulerSnapshot.histogramMembers, u64, List.map_cons, List.map_nil, List.forall_mem_cons,
    List.not_mem_nil, IsEmpty.forall_iff, implies_true, true_and, and_true, and_assoc]
  iterate 8 apply isSome_bind_iff isSome_getBucket; intro _
  iterate 3 apply isSome_bind_iff (isSome_valueU64 object'); intro _
  iterate 2 apply isSome_bind_iff (isSome_valueU64 object); intro _
  rw [← isSome_valueU64 object]
  exact isSome_bind_pure

/-- The flat document of all metrics. -/
def MetricsShape (j : Json F) : Prop :=
  Numbers ["timestamp_ns"] j ∧
  (∃ memory, j.atKey "memory" = some memory ∧
    Numbers (({} : AglMemorySnapshot).members.map Member.name) memory) ∧
  (∃ load, j.atKey "load" = some load ∧ ∃ cores, j.atKey "cpu_cores" = some cores ∧
    CpuShape load cores) ∧
  (∃ processes, j.atKey "top_processes" = some processes ∧ ProcessesShape processes) ∧
  (∃ ifaces, j.atKey "net_ifaces" = some ifaces ∧ ∃ tcp, j.atKey "tcp" = some tcp ∧
    NetworkShape ifaces tcp) ∧
  (∃ security, j.atKey "security" = some security ∧
    Numbers (({} : AglSecuritySnapshot).members.map Member.name) security) ∧
  ∃ sched, j.atKey "sched" = some sched ∧ SchedulerShape sched

omit [Doubles F] in
theorem isSome_atKey {A : Type} {key : String} {f : Json F → Option A} {P : Json F → Prop}
    (each : ∀ v, (f v).isSome = true ↔ P v) :
    (j.atKey key >>= f).isSome = true ↔ ∃ v, j.atKey key = some v ∧ P v :=
  isSome_bind_exists fun v _ => each v

theorem isSome_getMetrics {fetchJson : Daemon F} :
    (getMetrics fetchJson).isSome = true ↔
      ∃ j, fetchJson "/metrics" = some j ∧ MetricsShape j := by
  apply isSome_bind_exists
  intro j _
  have cpu (load cores : Json F) :
      (fillCpu (.object [("load", load), ("cores", cores)])).isSome = true ↔
        CpuShape load cores := by
    simp [isSome_fillCpu, atKey, List.lookup_cons]
  have network (ifaces tcp : Json F) :
      (fillNetwork (.object [("ifaces", ifaces), ("tcp", tcp)])).isSome = true ↔
        NetworkShape ifaces tcp := by
    simp [isSome_fillNetwork, atKey, List.lookup_cons]
  simp only [← bind_assoc]
  unfold MetricsShape
  by_cases object : j.isObject = true
  · apply isSome_bind_iff
    · simp [Numbers, object, isSome_valueU64 object]
    · intro _
      apply isSome_bind_iff (isSome_atKey fun m => isSome_fillMemory); intro _
      apply isSome_bind_iff (isSome_atKey fun load => isSome_atKey fun cores => cpu load cores)
      intro _
      apply isSome_bind_iff (isSome_atKey fun p => isSome_fillProcesses); intro _
      apply isSome_bind_iff (isSome_atKey fun i => isSome_atKey fun tcp => network i tcp); intro _
      apply isSome_bind_iff (isSome_atKey fun s => isSome_fillSecurity); intro _
      rw [← isSome_atKey fun s => isSome_fillScheduler]
      exact isSome_bind_pure
  · simp [valueU64_of_not_object object, Numbers, object]

inductive Call where
  | getMetrics
  | getMemory
  | getCpu
  | getProcesses (limit : UInt32)
  | getNetwork
  | getSecurity
  | getScheduler

def Call.path : Call → String
  | .getMetrics => "/metrics"
  | .getMemory => "/metrics/memory"
  | .getCpu => "/metrics/cpu"
  | .getProcesses limit => processPath limit
  | .getNetwork => "/metrics/network"
  | .getSecurity => "/metrics/security"
  | .getScheduler => "/metrics/scheduler"

/-- A call ends with a response, and not with an exception. -/
def Call.responds (fetchJson : Daemon F) : Call → Bool
  | .getMetrics => (AglHealth.getMetrics fetchJson).isSome
  | .getMemory => (AglHealth.getMemory fetchJson).isSome
  | .getCpu => (AglHealth.getCpu fetchJson).isSome
  | .getProcesses limit => (AglHealth.getProcesses fetchJson limit).isSome
  | .getNetwork => (AglHealth.getNetwork fetchJson).isSome
  | .getSecurity => (AglHealth.getSecurity fetchJson).isSome
  | .getScheduler => (AglHealth.getScheduler fetchJson).isSome

/-- The documents that a call reads its metrics from. -/
def Call.Shape : Call → Json F → Prop
  | .getMetrics, j => MetricsShape j
  | .getMemory, j => Numbers (({} : AglMemorySnapshot).members.map Member.name) j
  | .getCpu, j => ∃ load, j.atKey "load" = some load ∧ ∃ cores, j.atKey "cores" = some cores ∧
    CpuShape load cores
  | .getProcesses _, j => ProcessesShape j
  | .getNetwork, j => ∃ ifaces, j.atKey "ifaces" = some ifaces ∧
    ∃ tcp, j.atKey "tcp" = some tcp ∧ NetworkShape ifaces tcp
  | .getSecurity, j => Numbers (({} : AglSecuritySnapshot).members.map Member.name) j
  | .getScheduler, j => SchedulerShape j

theorem responds_iff (fetchJson : Daemon F) (call : Call) :
    call.responds fetchJson = true ↔ ∃ j, fetchJson call.path = some j ∧ call.Shape j := by
  cases call with
  | getMetrics => exact isSome_getMetrics
  | getMemory => exact isSome_bind_exists fun j _ => isSome_fillMemory
  | getCpu => exact isSome_bind_exists fun j _ => isSome_fillCpu
  | getProcesses limit => exact isSome_bind_exists fun j _ => isSome_fillProcesses
  | getNetwork => exact isSome_bind_exists fun j _ => isSome_fillNetwork
  | getSecurity => exact isSome_bind_exists fun j _ => isSome_fillSecurity
  | getScheduler => exact isSome_bind_exists fun j _ => isSome_fillScheduler

/-- What `libcurl` hands over when the transfer has succeeded. -/
structure Reply where
  httpCode : Nat
  body : List UInt8

/-- The documents of a daemon that sends these replies, none where a transfer fails. The code of a
reply is not asked for. -/
def fetchJson (parse : List UInt8 → Option (Json F)) (reply : String → Option Reply) : Daemon F :=
  fun path => do parse (← reply path).body

/-- Whatever the code of its reply, a call ends with an exception if and only if the body is no
JSON, or a document of another shape than the call reads. -/
theorem throws_iff (parse : List UInt8 → Option (Json F)) (reply : String → Option Reply)
    (call : Call) (answer : Reply) (arrived : reply call.path = some answer) :
    call.responds (fetchJson parse reply) = false ↔
      ∀ j, parse answer.body = some j → ¬ call.Shape j := by
  have document : fetchJson parse reply call.path = parse answer.body := by
    simp [fetchJson, arrived]
  rw [← Bool.not_eq_true, responds_iff, document, not_exists]
  simp only [not_and]

/-- A parser of the one document without members. -/
def braces (body : List UInt8) : Option (Json Rat) :=
  if body = [0x7b, 0x7d] then some (.object []) else none

theorem throws_not_found :
    Call.getMemory.responds (fetchJson braces fun _ => some ⟨404, [110, 111]⟩) = false :=
  (throws_iff braces (fun _ => some ⟨404, [110, 111]⟩) .getMemory ⟨404, [110, 111]⟩ rfl).mpr <| by
    intro j parsed
    simp [braces] at parsed

/-- An internal error with an empty document is a machine without memory. -/
theorem error_reported :
    getMemory (fetchJson braces fun _ => some ⟨500, [0x7b, 0x7d]⟩) =
      some ⟨0, 0, 0, 0, 0, 0, 0, 0, 0, 0, 0, 0⟩ ∧
    Call.getMemory.responds (fetchJson braces fun _ => some ⟨500, [0x7b, 0x7d]⟩) = true :=
  ⟨rfl, rfl⟩

end AglHealth

end TestRunner
