import TestRunner.Plugins.AglHealthClient
import Mathlib.Data.List.TakeWhile

/-! The metrics that the client returns against the document of the daemon, member by member. -/
namespace TestRunner.AglHealth

variable {F : Type}

/-- A numeric member of a record: its name in the document, the width of its type, its value. -/
structure Member where
  name : String
  bits : Nat
  value : Int

def u64 (name : String) (value : UInt64) : Member := ⟨name, 64, value.toNat⟩
def u32 (name : String) (value : UInt32) : Member := ⟨name, 32, value.toNat⟩

def AglMemorySnapshot.members (m : AglMemorySnapshot) : List Member :=
  [u64 "total_bytes" m.totalBytes, u64 "free_bytes" m.freeBytes,
   u64 "cached_bytes" m.cachedBytes, u64 "buffered_bytes" m.bufferedBytes,
   u64 "slab_bytes" m.slabBytes, u64 "swap_used_bytes" m.swapUsedBytes,
   u64 "swap_free_bytes" m.swapFreeBytes, u64 "page_faults_minor" m.pageFaultsMinor,
   u64 "page_faults_major" m.pageFaultsMajor, u32 "psi_some_pct_x100" m.psiSomePctX100,
   u32 "psi_full_pct_x100" m.psiFullPctX100, u64 "oom_kills_total" m.oomKillsTotal]

def AglCoreStats.members (c : AglCoreStats) : List Member :=
  [u32 "cpu_id" c.cpuId, u64 "user_ns" c.userNs, u64 "system_ns" c.systemNs,
   u64 "iowait_ns" c.iowaitNs, u64 "irq_ns" c.irqNs, u64 "softirq_ns" c.softirqNs,
   u64 "idle_ns" c.idleNs, u64 "ctx_switches" c.ctxSwitches]

def AglProcessStats.members (s : AglProcessStats) : List Member :=
  [u32 "pid" s.pid, u32 "ppid" s.ppid, u32 "uid" s.uid, u32 "thread_count" s.threadCount,
   u64 "cpu_user_ns" s.cpuUserNs, u64 "cpu_system_ns" s.cpuSystemNs,
   u64 "mem_rss_bytes" s.memRssBytes, u64 "mem_vms_bytes" s.memVmsBytes,
   u64 "voluntary_ctx_sw" s.voluntaryCtxSw, u64 "involuntary_ctx_sw" s.involuntaryCtxSw,
   u64 "read_bytes" s.readBytes, u64 "write_bytes" s.writeBytes,
   u64 "page_faults_minor" s.pageFaultsMinor, u64 "page_faults_major" s.pageFaultsMajor,
   u64 "start_time_ns" s.startTimeNs, u32 "open_fds" s.openFds]

def AglNetIfaceStats.members (s : AglNetIfaceStats) : List Member :=
  [u32 "iface_idx" s.ifaceIdx, u64 "rx_bytes" s.rxBytes, u64 "tx_bytes" s.txBytes,
   u64 "rx_packets" s.rxPackets, u64 "tx_packets" s.txPackets, u64 "rx_drops" s.rxDrops,
   u64 "tx_drops" s.txDrops, u64 "rx_errors" s.rxErrors, u64 "tx_errors" s.txErrors]

def AglTcpStateSnapshot.members (t : AglTcpStateSnapshot) : List Member :=
  [u64 "established" t.established, u64 "syn_sent" t.synSent, u64 "syn_recv" t.synRecv,
   u64 "fin_wait1" t.finWait1, u64 "fin_wait2" t.finWait2, u64 "time_wait" t.timeWait,
   u64 "close_wait" t.closeWait, u64 "listen" t.listen,
   u64 "listen_overflows" t.listenOverflows, u64 "retransmits" t.retransmits,
   u64 "resets_in" t.resetsIn, u64 "resets_out" t.resetsOut]

def AglSecuritySnapshot.members (s : AglSecuritySnapshot) : List Member :=
  [u64 "ptrace" s.ptrace, u64 "memfd_create" s.memfdCreate, u64 "prctl" s.prctl,
   u64 "setuid" s.setuid, u64 "exec_anomaly" s.execAnomaly,
   u64 "capability_use" s.capabilityUse]

/-- The members of a scheduler document, -/
def AglSchedulerSnapshot.members (s : AglSchedulerSnapshot) : List Member :=
  [u64 "p50_ns" s.p50Ns, u64 "p95_ns" s.p95Ns, u64 "p99_ns" s.p99Ns]

/-- and those of the histogram in it. -/
def AglSchedulerSnapshot.histogramMembers (s : AglSchedulerSnapshot) : List Member :=
  [u64 "total_count" s.totalCount, u64 "total_latency_ns" s.totalLatNs,
   u64 "max_latency_ns" s.maxLatNs]

def AglSchedBuckets.list (b : AglSchedBuckets) : List UInt64 :=
  [b.lt10us, b.lt100us, b.lt1ms, b.lt10ms, b.lt100ms, b.lt1s, b.lt10s, b.ge10s]

def IsNumber (v : Json F) : Prop := (∃ n, v = .integer n) ∨ ∃ x, v = .float x

/-- The integer that a number stands for, of a `double` its integer part, 0 when it is missing. -/
def integer [Doubles F] : Option (Json F) → Int
  | some (.integer n) => n
  | some (.float x) => Doubles.truncate x
  | _ => 0

/-- A `double`, 0 when it is missing. -/
def real [Doubles F] : Option (Json F) → F
  | some (.integer n) => Doubles.ofInt n
  | some (.float x) => x
  | _ => Doubles.zero

/-- A text, empty when it is missing: the bytes before the first 0, or the string. -/
def text [Doubles F] : Option (Json F) → List UInt8
  | some (.array bytes) => cStr (bytes.map fun b => UInt8.ofInt (integer (some b)))
  | some (.string bytes) => bytes
  | _ => []

section Shapes

variable [Doubles F]

/-- A number in the range of an unsigned type. -/
def IsUnsigned (bits : Nat) (v : Json F) : Prop :=
  IsNumber v ∧ 0 ≤ integer (some v) ∧ integer (some v) < 2 ^ bits

/-- A document with these members, each missing or a number in the range of its type. -/
def IsRecord (members : List Member) (j : Json F) : Prop :=
  j.isObject = true ∧ ∀ m ∈ members, ∀ v, j.atKey m.name = some v → IsUnsigned m.bits v

/-- Each member has the value that the document has under its name. -/
def Reads (j : Json F) (members : List Member) : Prop :=
  ∀ m ∈ members, m.value = integer (j.atKey m.name)

def IsLoad (j : Json F) : Prop :=
  j.isObject = true ∧ ∀ name ∈ ["load_1", "load_5", "load_15"], ∀ v, j.atKey name = some v →
    IsNumber v

def IsProcess (p : Json F) : Prop :=
  IsRecord ({} : AglProcessStats).members p ∧ ∀ v, p.atKey "comm" = some v →
    (∃ bytes, v = .string bytes) ∨ ∃ bytes, v = .array bytes ∧ ∀ b ∈ bytes, IsUnsigned 8 b

def IsIface (p : Json F) : Prop :=
  IsRecord ({} : AglNetIfaceStats).members p ∧
    ∀ v, p.atKey "name" = some v → ∃ bytes, v = .string bytes

/-- A full snapshot of the daemon, with the parts that every snapshot has. -/
structure FullSnapshot (j : Json F) where
  memory : Json F
  load : Json F
  cores : List (Json F)
  processes : List (Json F)
  ifaces : List (Json F)
  tcp : Json F
  security : Json F
  sched : Json F
  histogram : Json F
  buckets : List (Json F)
  top : IsRecord [u64 "timestamp_ns" 0] j
  hasMemory : j.atKey "memory" = some memory ∧ IsRecord ({} : AglMemorySnapshot).members memory
  hasLoad : j.atKey "load" = some load ∧ IsLoad load
  hasCores : j.atKey "cpu_cores" = some (.array cores) ∧
    ∀ c ∈ cores, IsRecord ({} : AglCoreStats).members c
  hasProcesses : j.atKey "top_processes" = some (.array processes) ∧ ∀ p ∈ processes, IsProcess p
  hasIfaces : j.atKey "net_ifaces" = some (.array ifaces) ∧ ∀ i ∈ ifaces, IsIface i
  hasTcp : j.atKey "tcp" = some tcp ∧ IsRecord ({} : AglTcpStateSnapshot).members tcp
  hasSecurity : j.atKey "security" = some security ∧
    IsRecord ({} : AglSecuritySnapshot).members security
  hasSched : j.atKey "sched" = some sched ∧ IsRecord ({} : AglSchedulerSnapshot).members sched
  hasHistogram : sched.atKey "histogram" = some histogram ∧
    IsRecord ({} : AglSchedulerSnapshot).histogramMembers histogram
  hasBuckets : histogram.atKey "buckets" = some (.array buckets) ∧ ∀ b ∈ buckets, IsUnsigned 64 b

/-- The structure has what the document says, with texts as `convert` makes them. -/
structure Matches (convert : List UInt8 → List UInt8) {j : Json F} (doc : FullSnapshot j)
    (out : AglMetricSnapshot F) : Prop where
  timestamp : (out.timestampNs.toNat : Int) = integer (j.atKey "timestamp_ns")
  memory : Reads doc.memory out.memory.members
  load : [out.cpu.load1, out.cpu.load5, out.cpu.load15] =
    ["load_1", "load_5", "load_15"].map fun name => real (doc.load.atKey name)
  cores : List.Forall₂ (fun c core => Reads c core.members) doc.cores out.cpu.cores
  processes : List.Forall₂ (fun p s => Reads p s.members ∧ s.comm = convert (text (p.atKey "comm")))
    doc.processes out.processes
  ifaces : List.Forall₂ (fun i s => Reads i s.members ∧ s.name = convert (text (i.atKey "name")))
    doc.ifaces out.network.ifaces
  tcp : Reads doc.tcp out.network.tcp.members
  security : Reads doc.security out.security.members
  scheduler : Reads doc.sched out.scheduler.members
  histogram : Reads doc.histogram out.scheduler.histogramMembers
  buckets : out.scheduler.histogram.list.map (fun n => (n.toNat : Int)) =
    (List.range 8).map fun i => integer doc.buckets[i]?

theorem integer_range {bits : Nat} {v : Option (Json F)}
    (range : ∀ w, v = some w → IsUnsigned bits w) : 0 ≤ integer v ∧ integer v < 2 ^ bits := by
  cases v with
  | none => exact ⟨le_refl 0, by simp [integer]⟩
  | some w => exact (range w rfl).2

end Shapes

theorem valueString_eq {j : Json F} {key : String} [Doubles F] (object : j.isObject = true)
    (range : ∀ v, j.atKey key = some v → ∃ bytes, v = .string bytes) :
    j.valueString key = some (text (j.atKey key)) := by
  refine Json.value_of_member object (fun v found => ?_) fun missing => ?_
  · obtain ⟨bytes, rfl⟩ := range v found
    rw [found]
    rfl
  · rw [missing]
    rfl

section Records

variable [Doubles F] {j : Json F} {members : List Member} {key : String}

theorem value_integer {A : Type} (ofInt : Int → A) (object : j.isObject = true)
    (range : ∀ v, j.atKey key = some v → ∃ bits, IsUnsigned bits v) :
    j.value (fun v => v.getInt.map ofInt) (ofInt 0) key = some (ofInt (integer (j.atKey key))) := by
  refine Json.value_of_member object (fun v found => ?_) fun missing => ?_
  · obtain ⟨bits, ⟨n, rfl⟩ | ⟨x, rfl⟩, -⟩ := range v found <;> rw [found] <;> rfl
  · rw [missing]
    rfl

theorem IsRecord.u64 (h : IsRecord members j) (inside : AglHealth.u64 key 0 ∈ members) :
    j.valueU64 key = some (UInt64.ofInt (integer (j.atKey key))) ∧
      ((UInt64.ofInt (integer (j.atKey key))).toNat : Int) = integer (j.atKey key) := by
  have range : ∀ v, j.atKey key = some v → IsUnsigned 64 v := h.2 _ inside
  refine ⟨value_integer UInt64.ofInt h.1 fun v found => ⟨64, range v found⟩, ?_⟩
  obtain ⟨low, high⟩ := integer_range range
  simp only [UInt64.ofInt, UInt64.toNat_ofNat']
  omega

theorem IsRecord.u32 (h : IsRecord members j) (inside : AglHealth.u32 key 0 ∈ members) :
    j.valueU32 key = some (UInt32.ofInt (integer (j.atKey key))) ∧
      ((UInt32.ofInt (integer (j.atKey key))).toNat : Int) = integer (j.atKey key) := by
  have range : ∀ v, j.atKey key = some v → IsUnsigned 32 v := h.2 _ inside
  refine ⟨value_integer UInt32.ofInt h.1 fun v found => ⟨32, range v found⟩, ?_⟩
  obtain ⟨low, high⟩ := integer_range range
  simp only [UInt32.ofInt, UInt32.toNat_ofNat']
  omega

theorem memory_survives (h : IsRecord ({} : AglMemorySnapshot).members j) :
    ∃ w, fillMemory j = some w ∧ Reads j (decodeMemory w).members := by
  have wide := fun key (inside : u64 key 0 ∈ _) => h.u64 inside
  have narrow := fun key (inside : u32 key 0 ∈ _) => h.u32 inside
  simp only [AglMemorySnapshot.members, u64, u32] at wide narrow
  refine ⟨_, by simp [fillMemory, wide, narrow]; rfl, ?_⟩
  simp [Reads, AglMemorySnapshot.members, decodeMemory, u64, u32, wide, narrow]

theorem core_survives (h : IsRecord ({} : AglCoreStats).members j) :
    ∃ w, fillCore j = some w ∧ Reads j (decodeCore w).members := by
  have wide := fun key (inside : u64 key 0 ∈ _) => h.u64 inside
  have narrow := fun key (inside : u32 key 0 ∈ _) => h.u32 inside
  simp only [AglCoreStats.members, u64, u32] at wide narrow
  refine ⟨_, by simp [fillCore, wide, narrow]; rfl, ?_⟩
  simp [Reads, AglCoreStats.members, decodeCore, u64, u32, wide, narrow]

theorem tcp_survives (h : IsRecord ({} : AglTcpStateSnapshot).members j) :
    ∃ w, fillTcp j = some w ∧ Reads j (decodeTcp w).members := by
  have wide := fun key (inside : u64 key 0 ∈ _) => h.u64 inside
  simp only [AglTcpStateSnapshot.members, u64] at wide
  refine ⟨_, by simp [fillTcp, wide]; rfl, ?_⟩
  simp [Reads, AglTcpStateSnapshot.members, decodeTcp, u64, wide]

theorem security_survives (h : IsRecord ({} : AglSecuritySnapshot).members j) :
    ∃ w, fillSecurity j = some w ∧ Reads j (decodeSecurity w).members := by
  have wide := fun key (inside : u64 key 0 ∈ _) => h.u64 inside
  simp only [AglSecuritySnapshot.members, u64] at wide
  refine ⟨_, by simp [fillSecurity, wide]; rfl, ?_⟩
  simp [Reads, AglSecuritySnapshot.members, decodeSecurity, u64, wide]

theorem cStr_cStr (bytes : List UInt8) : cStr (cStr bytes) = cStr bytes := List.takeWhile_idem

theorem commBytes_eq {bytes : List (Json F)} (range : ∀ b ∈ bytes, IsUnsigned 8 b) :
    commBytes bytes = some (cStr (bytes.map fun b => UInt8.ofInt (integer (some b)))) := by
  induction bytes with
  | nil => rfl
  | cons b bytes ih =>
    obtain ⟨⟨number, -⟩, later⟩ := List.forall_mem_cons.mp range
    have read : b.getInt = some (integer (some b)) := by
      rcases number with ⟨n, rfl⟩ | ⟨x, rfl⟩ <;> rfl
    by_cases zero : UInt8.ofInt (integer (some b)) = 0
    · simp [commBytes, read, cStr, zero]
    · simp [commBytes, read, cStr, zero, ih later]

theorem comm_eq {p : Json F} (h : IsProcess p) : comm p = some (text (p.atKey "comm")) := by
  obtain ⟨⟨object, -⟩, kinds⟩ := h
  have read : (∀ v, p.atKey "comm" = some v → ∃ bytes, v = .string bytes) →
      p.valueString "comm" = some (text (p.atKey "comm")) := valueString_eq object
  unfold comm
  cases found : p.atKey "comm" with
  | none =>
    rw [found] at read
    exact read fun v got => nomatch got
  | some v =>
    rw [found] at read
    rcases kinds v found with ⟨bytes, rfl⟩ | ⟨bytes, rfl, range⟩
    · exact read fun v got => ⟨bytes, (Option.some.inj got).symm⟩
    · exact commBytes_eq range

theorem process_survives {p : Json F} (h : IsProcess p) :
    ∃ w, fillProcess p = some w ∧ Reads p (decodeProcess w).members ∧
      (decodeProcess w).comm = cStr (text (p.atKey "comm")) := by
  have wide := fun key (inside : u64 key 0 ∈ _) => h.1.u64 inside
  have narrow := fun key (inside : u32 key 0 ∈ _) => h.1.u32 inside
  simp only [AglProcessStats.members, u64, u32] at wide narrow
  refine ⟨_, by simp [fillProcess, wide, narrow, comm_eq h]; rfl, ?_, ?_⟩
  · simp [Reads, AglProcessStats.members, decodeProcess, u64, u32, wide, narrow]
  · exact cStr_cStr _

theorem iface_survives {i : Json F} (h : IsIface i) :
    ∃ w, fillIface i = some w ∧ Reads i (decodeIface w).members ∧
      (decodeIface w).name = cStr (text (i.atKey "name")) := by
  have wide := fun key (inside : u64 key 0 ∈ _) => h.1.u64 inside
  have narrow := fun key (inside : u32 key 0 ∈ _) => h.1.u32 inside
  simp only [AglNetIfaceStats.members, u64, u32] at wide narrow
  refine ⟨_, by simp [fillIface, wide, narrow, valueString_eq h.1.1 h.2]; rfl, ?_, ?_⟩
  · simp [Reads, AglNetIfaceStats.members, decodeIface, u64, u32, wide, narrow]
  · exact cStr_cStr _

theorem load_survives {load : Json F} {name : String} (h : IsLoad load)
    (inside : name ∈ ["load_1", "load_5", "load_15"]) :
    load.valueDouble name = some (real (load.atKey name)) := by
  refine Json.value_of_member h.1 (fun v found => ?_) fun missing => ?_
  · rw [found]
    rcases h.2 name inside v found with ⟨n, rfl⟩ | ⟨x, rfl⟩ <;> rfl
  · rw [missing]
    rfl

/-- Every document with this load and these cores gives the same. -/
theorem cpu_survives {load : Json F} {cores : List (Json F)} (isLoad : IsLoad load)
    (isCores : ∀ c ∈ cores, IsRecord ({} : AglCoreStats).members c) :
    ∃ w, (∀ j, j.atKey "load" = some load → j.atKey "cores" = some (.array cores) →
        fillCpu j = some w) ∧
      [(decodeCpu w).load1, (decodeCpu w).load5, (decodeCpu w).load15] =
        ["load_1", "load_5", "load_15"].map (fun name => real (load.atKey name)) ∧
      List.Forall₂ (fun c core => Reads c core.members) cores (decodeCpu w).cores := by
  obtain ⟨ws, filled, all⟩ := mapM_forall₂ fun c inside => core_survives (isCores c inside)
  have loads := fun name (inside : name ∈ _) => load_survives isLoad inside
  refine ⟨⟨real (load.atKey "load_1"), real (load.atKey "load_5"), real (load.atKey "load_15"), ws⟩,
    fun j hasLoad hasCores => ?_, rfl, List.forall₂_map_right_iff.mpr all⟩
  simp [fillCpu, hasLoad, hasCores, Json.elements, filled, loads]

theorem processes_survive {processes : List (Json F)} (h : ∀ p ∈ processes, IsProcess p) :
    ∃ w, fillProcesses (.array processes) = some w ∧
      List.Forall₂ (fun p s => Reads p s.members ∧ s.comm = cStr (text (p.atKey "comm")))
        processes (decodeProcesses w) := by
  obtain ⟨ws, filled, all⟩ := mapM_forall₂ fun p inside => process_survives (h p inside)
  exact ⟨ws, by simpa [fillProcesses, Json.elements] using filled,
    List.forall₂_map_right_iff.mpr all⟩

theorem network_survives {ifaces : List (Json F)} {tcp : Json F} (isIfaces : ∀ i ∈ ifaces, IsIface i)
    (isTcp : IsRecord ({} : AglTcpStateSnapshot).members tcp) :
    ∃ w, (∀ j, j.atKey "ifaces" = some (.array ifaces) → j.atKey "tcp" = some tcp →
        fillNetwork j = some w) ∧
      List.Forall₂ (fun i s => Reads i s.members ∧ s.name = cStr (text (i.atKey "name")))
        ifaces (decodeNetwork w).ifaces ∧
      Reads tcp (decodeNetwork w).tcp.members := by
  obtain ⟨ws, filled, all⟩ := mapM_forall₂ fun i inside => iface_survives (isIfaces i inside)
  obtain ⟨t, filledTcp, reads⟩ := tcp_survives isTcp
  refine ⟨⟨ws, t⟩, fun j hasIfaces hasTcp => ?_, List.forall₂_map_right_iff.mpr all, reads⟩
  simp [fillNetwork, hasIfaces, hasTcp, Json.elements, filled, filledTcp]

theorem bucket_survives {buckets : List (Json F)} (h : ∀ b ∈ buckets, IsUnsigned 64 b) (i : Nat) :
    getBucket buckets i = some (UInt64.ofInt (integer buckets[i]?)) ∧
      ((UInt64.ofInt (integer buckets[i]?)).toNat : Int) = integer buckets[i]? := by
  have range : ∀ b, buckets[i]? = some b → IsUnsigned 64 b :=
    fun b found => h b (List.mem_of_getElem? found)
  constructor
  · unfold getBucket
    cases found : buckets[i]? with
    | none => rfl
    | some b =>
      obtain ⟨⟨n, rfl⟩ | ⟨x, rfl⟩, -⟩ := range b found <;> rfl
  · obtain ⟨low, high⟩ := integer_range range
    simp only [UInt64.ofInt, UInt64.toNat_ofNat']
    omega

theorem scheduler_survives {histogram : Json F} {buckets : List (Json F)}
    (h : IsRecord ({} : AglSchedulerSnapshot).members j)
    (hasHistogram : j.atKey "histogram" = some histogram)
    (isHistogram : IsRecord ({} : AglSchedulerSnapshot).histogramMembers histogram)
    (hasBuckets : histogram.atKey "buckets" = some (.array buckets))
    (isBuckets : ∀ b ∈ buckets, IsUnsigned 64 b) :
    ∃ w, fillScheduler j = some w ∧ Reads j (decodeScheduler w).members ∧
      Reads histogram (decodeScheduler w).histogramMembers ∧
      (decodeScheduler w).histogram.list.map (fun n => (n.toNat : Int)) =
        (List.range 8).map fun i => integer buckets[i]? := by
  have wide := fun key (inside : u64 key 0 ∈ _) => h.u64 inside
  have inner := fun key (inside : u64 key 0 ∈ _) => isHistogram.u64 inside
  have bucket := bucket_survives isBuckets
  simp only [AglSchedulerSnapshot.members, AglSchedulerSnapshot.histogramMembers, u64] at wide inner
  refine ⟨⟨⟨UInt64.ofInt (integer buckets[0]?), UInt64.ofInt (integer buckets[1]?),
      UInt64.ofInt (integer buckets[2]?), UInt64.ofInt (integer buckets[3]?),
      UInt64.ofInt (integer buckets[4]?), UInt64.ofInt (integer buckets[5]?),
      UInt64.ofInt (integer buckets[6]?), UInt64.ofInt (integer buckets[7]?)⟩,
    UInt64.ofInt (integer (histogram.atKey "total_count")),
    UInt64.ofInt (integer (histogram.atKey "total_latency_ns")),
    UInt64.ofInt (integer (histogram.atKey "max_latency_ns")),
    UInt64.ofInt (integer (j.atKey "p50_ns")), UInt64.ofInt (integer (j.atKey "p95_ns")),
    UInt64.ofInt (integer (j.atKey "p99_ns"))⟩, ?_, ?_, ?_, ?_⟩
  · have outer : ∀ key ∈ ["p50_ns", "p95_ns", "p99_ns"],
        j.valueU64 key = some (UInt64.ofInt (integer (j.atKey key))) :=
      fun key inside => (wide key (by simpa using inside)).1
    have within : ∀ key ∈ ["total_count", "total_latency_ns", "max_latency_ns"],
        histogram.valueU64 key = some (UInt64.ofInt (integer (histogram.atKey key))) :=
      fun key inside => (inner key (by simpa using inside)).1
    refine bind_of_some hasHistogram <| bind_of_some hasBuckets <| bind_of_some rfl ?_
    refine bind_of_some (bucket 0).1 <| bind_of_some (bucket 1).1 <| bind_of_some (bucket 2).1 <|
      bind_of_some (bucket 3).1 <| bind_of_some (bucket 4).1 <| bind_of_some (bucket 5).1 <|
      bind_of_some (bucket 6).1 <| bind_of_some (bucket 7).1 ?_
    refine bind_of_some (within _ ?_) <| bind_of_some (within _ ?_) <| bind_of_some (within _ ?_) <|
      bind_of_some (outer _ ?_) <| bind_of_some (outer _ ?_) <| bind_of_some (outer _ ?_) rfl
    all_goals simp
  · simp [Reads, AglSchedulerSnapshot.members, decodeScheduler, u64, wide]
  · simp [Reads, AglSchedulerSnapshot.histogramMembers, decodeScheduler, u64, inner]
  · simp [AglSchedBuckets.list, decodeScheduler, fun i => (bucket i).2, List.range_succ]

end Records

/-- The parts of the structure are what the other calls return for the parts of the document. -/
structure PartsAgree [Doubles F] (client : PluginAglHealthClient F) {j : Json F}
    (doc : FullSnapshot j) (out : AglMetricSnapshot F) : Prop where
  memory : client.daemon "/metrics/memory" = some doc.memory → client.getMemory = some out.memory
  cpu : ∀ cpu, client.daemon "/metrics/cpu" = some cpu → cpu.atKey "load" = some doc.load →
    cpu.atKey "cores" = some (.array doc.cores) → client.getCpu = some out.cpu
  processes : ∀ limit, client.daemon (processPath limit) = some (.array doc.processes) →
    client.getProcesses limit = some out.processes
  network : ∀ network, client.daemon "/metrics/network" = some network →
    network.atKey "ifaces" = some (.array doc.ifaces) → network.atKey "tcp" = some doc.tcp →
    client.getNetwork = some out.network
  security : client.daemon "/metrics/security" = some doc.security →
    client.getSecurity = some out.security
  scheduler : client.daemon "/metrics/scheduler" = some doc.sched →
    client.getScheduler = some out.scheduler

/-- For every full snapshot of the daemon the client returns what it says, texts up to their first
0, and its parts are what the calls for the parts return. -/
theorem metrics_survive [Doubles F] (client : PluginAglHealthClient F)
    (connected : client.isConnected = true) (arrives : client.arrives = true) {j : Json F}
    (doc : FullSnapshot j) (fetched : client.daemon "/metrics" = some j) :
    ∃ out, client.getMetrics = some out ∧ Matches cStr doc out ∧ PartsAgree client doc out := by
  have respond : ∀ {A : Type} (results : Option A), client.response results = results := by
    intro A results
    simp [PluginAglHealthClient.response, connected, arrives]
  obtain ⟨timestamp, stamp⟩ := doc.top.u64 (List.mem_singleton.mpr rfl)
  obtain ⟨memory, filledMemory, readMemory⟩ := memory_survives doc.hasMemory.2
  obtain ⟨cpu, filledCpu, readLoad, readCores⟩ := cpu_survives doc.hasLoad.2 doc.hasCores.2
  obtain ⟨processes, filledProcesses, readProcesses⟩ := processes_survive doc.hasProcesses.2
  obtain ⟨network, filledNetwork, readIfaces, readTcp⟩ :=
    network_survives doc.hasIfaces.2 doc.hasTcp.2
  obtain ⟨security, filledSecurity, readSecurity⟩ := security_survives doc.hasSecurity.2
  obtain ⟨scheduler, filledScheduler, readScheduler, readHistogram, readBuckets⟩ :=
    scheduler_survives doc.hasSched.2 doc.hasHistogram.1 doc.hasHistogram.2 doc.hasBuckets.1
      doc.hasBuckets.2
  have served : AglHealth.getMetrics client.daemon =
      some ⟨UInt64.ofInt (integer (j.atKey "timestamp_ns")), memory, cpu, processes, network, security,
        scheduler⟩ :=
    bind_of_some fetched <| bind_of_some timestamp <| bind_of_some doc.hasMemory.1 <|
      bind_of_some filledMemory <| bind_of_some doc.hasLoad.1 <| bind_of_some doc.hasCores.1 <|
      bind_of_some (filledCpu _ rfl rfl) <| bind_of_some doc.hasProcesses.1 <|
      bind_of_some filledProcesses <| bind_of_some doc.hasIfaces.1 <| bind_of_some doc.hasTcp.1 <|
      bind_of_some (filledNetwork _ rfl rfl) <| bind_of_some doc.hasSecurity.1 <|
      bind_of_some filledSecurity <| bind_of_some doc.hasSched.1 <| bind_of_some filledScheduler rfl
  refine ⟨_, bind_of_some ((respond _).trans served) rfl, ?_, ?_⟩
  · exact ⟨stamp, readMemory, readLoad, readCores, readProcesses, readIfaces, readTcp, readSecurity,
      readScheduler, readHistogram, readBuckets⟩
  · constructor
    · intro sub
      simp [PluginAglHealthClient.getMemory, AglHealth.getMemory, respond, sub, filledMemory]
    · intro doc sub load cores
      simp [PluginAglHealthClient.getCpu, AglHealth.getCpu, respond, sub, filledCpu doc load cores]
    · intro limit sub
      simp [PluginAglHealthClient.getProcesses, AglHealth.getProcesses, respond, sub, filledProcesses]
    · intro doc sub ifaces tcp
      simp [PluginAglHealthClient.getNetwork, AglHealth.getNetwork, respond, sub,
        filledNetwork doc ifaces tcp]
    · intro sub
      simp [PluginAglHealthClient.getSecurity, AglHealth.getSecurity, respond, sub, filledSecurity]
    · intro sub
      simp [PluginAglHealthClient.getScheduler, AglHealth.getScheduler, respond, sub, filledScheduler]

instance : Doubles Rat where
  zero := 0
  ofInt n := n
  truncate x := x.num.tdiv x.den

/-- A snapshot with one process. -/
def snapshot (comm : List UInt8) : Json Rat :=
  .object [("memory", .object [("total_bytes", .integer 4096)]),
    ("load", .object [("load_1", .float (1 / 2))]), ("cpu_cores", .array [.object []]),
    ("top_processes", .array [.object [("pid", .integer 7), ("comm", .string comm)]]),
    ("net_ifaces", .array []), ("tcp", .object []), ("security", .object []),
    ("sched", .object [("histogram", .object [("buckets", .array [.integer 3])])])]

def snapshotFull (comm : List UInt8) : FullSnapshot (snapshot comm) where
  memory := .object [("total_bytes", .integer 4096)]
  load := .object [("load_1", .float (1 / 2))]
  cores := [.object []]
  processes := [.object [("pid", .integer 7), ("comm", .string comm)]]
  ifaces := []
  tcp := .object []
  security := .object []
  sched := .object [("histogram", .object [("buckets", .array [.integer 3])])]
  histogram := .object [("buckets", .array [.integer 3])]
  buckets := [.integer 3]
  top := ⟨rfl, by simp [snapshot, Json.atKey, u64, List.lookup_cons]⟩
  hasMemory := ⟨rfl, rfl, by
    simp [AglMemorySnapshot.members, u64, u32, Json.atKey, List.lookup_cons, IsUnsigned, IsNumber, integer]⟩
  hasLoad := ⟨rfl, rfl, by simp [Json.atKey, List.lookup_cons, IsNumber]⟩
  hasCores := ⟨rfl, by simp [IsRecord, Json.isObject, Json.atKey]⟩
  hasProcesses := ⟨rfl, by
    simp [IsProcess, IsRecord, Json.isObject, AglProcessStats.members, u64, u32, Json.atKey, List.lookup_cons,
      IsUnsigned, IsNumber, integer]⟩
  hasIfaces := ⟨rfl, by simp⟩
  hasTcp := ⟨rfl, rfl, by simp [Json.atKey]⟩
  hasSecurity := ⟨rfl, rfl, by simp [Json.atKey]⟩
  hasSched := ⟨rfl, rfl, by simp [AglSchedulerSnapshot.members, u64, Json.atKey, List.lookup_cons]⟩
  hasHistogram := ⟨rfl, rfl, by
    simp [AglSchedulerSnapshot.histogramMembers, u64, Json.atKey, List.lookup_cons]⟩
  hasBuckets := ⟨rfl, by simp [IsUnsigned, IsNumber, integer]⟩

def snapshotClient (comm : List UInt8) : PluginAglHealthClient Rat :=
  ⟨true, fun path => if path = "/metrics" then some (snapshot comm) else none, true⟩

theorem metrics_survive_snapshot : ∃ out, (snapshotClient [97]).getMetrics = some out ∧
    Matches cStr (snapshotFull [97]) out ∧ PartsAgree (snapshotClient [97]) (snapshotFull [97]) out :=
  metrics_survive (snapshotClient [97]) rfl rfl (snapshotFull [97]) rfl

/-- A name with a 0 in it is cut. -/
theorem comm_cut : ∃ out, (snapshotClient [97, 0, 98]).getMetrics = some out ∧
    out.processes.map AglProcessStats.comm = [[97]] ∧ ¬ Matches id (snapshotFull [97, 0, 98]) out := by
  refine ⟨_, rfl, rfl, fun same => ?_⟩
  have cut := (List.forall₂_cons.mp same.processes).1.2
  revert cut
  decide

end TestRunner.AglHealth
