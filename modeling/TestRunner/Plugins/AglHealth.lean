import TestRunner.Core
import TestRunner.Json

/-! The health metrics of the daemon as messages: the server fills them from JSON. -/
namespace TestRunner.AglHealth

structure MemorySnapshot where
  totalBytes : UInt64
  freeBytes : UInt64
  cachedBytes : UInt64
  bufferedBytes : UInt64
  slabBytes : UInt64
  swapUsedBytes : UInt64
  swapFreeBytes : UInt64
  pageFaultsMinor : UInt64
  pageFaultsMajor : UInt64
  psiSomePctX100 : UInt32
  psiFullPctX100 : UInt32
  oomKillsTotal : UInt64

structure CpuStats where
  cpuId : UInt32
  userNs : UInt64
  systemNs : UInt64
  iowaitNs : UInt64
  irqNs : UInt64
  softirqNs : UInt64
  idleNs : UInt64
  ctxSwitches : UInt64

structure CpuSnapshot (F : Type) where
  load1 : F
  load5 : F
  load15 : F
  cores : List CpuStats

structure ProcessStats where
  pid : UInt32
  ppid : UInt32
  uid : UInt32
  threadCount : UInt32
  cpuUserNs : UInt64
  cpuSystemNs : UInt64
  memRssBytes : UInt64
  memVmsBytes : UInt64
  voluntaryCtxSw : UInt64
  involuntaryCtxSw : UInt64
  readBytes : UInt64
  writeBytes : UInt64
  pageFaultsMinor : UInt64
  pageFaultsMajor : UInt64
  startTimeNs : UInt64
  openFds : UInt32
  comm : List UInt8

structure NetIfaceStats where
  ifaceIdx : UInt32
  name : List UInt8
  rxBytes : UInt64
  txBytes : UInt64
  rxPackets : UInt64
  txPackets : UInt64
  rxDrops : UInt64
  txDrops : UInt64
  rxErrors : UInt64
  txErrors : UInt64

structure TcpStateSnapshot where
  established : UInt64
  synSent : UInt64
  synRecv : UInt64
  finWait1 : UInt64
  finWait2 : UInt64
  timeWait : UInt64
  closeWait : UInt64
  listen : UInt64
  listenOverflows : UInt64
  retransmits : UInt64
  resetsIn : UInt64
  resetsOut : UInt64

structure NetworkSnapshot where
  ifaces : List NetIfaceStats
  tcp : TcpStateSnapshot

structure SecuritySnapshot where
  ptrace : UInt64
  memfdCreate : UInt64
  prctl : UInt64
  setuid : UInt64
  execAnomaly : UInt64
  capabilityUse : UInt64

structure SchedBuckets where
  lt10Us : UInt64
  lt100Us : UInt64
  lt1Ms : UInt64
  lt10Ms : UInt64
  lt100Ms : UInt64
  lt1S : UInt64
  lt10S : UInt64
  ge10S : UInt64

structure SchedulerSnapshot where
  histogram : SchedBuckets
  totalCount : UInt64
  totalLatNs : UInt64
  maxLatNs : UInt64
  p50Ns : UInt64
  p95Ns : UInt64
  p99Ns : UInt64

structure MetricSnapshot (F : Type) where
  timestampNs : UInt64
  memory : MemorySnapshot
  cpu : CpuSnapshot F
  processes : List ProcessStats
  network : NetworkSnapshot
  security : SecuritySnapshot
  scheduler : SchedulerSnapshot

variable {F : Type} [Doubles F]

def fillMemory (j : Json F) : Option MemorySnapshot := do
  return {
    totalBytes := ← j.valueU64 "total_bytes"
    freeBytes := ← j.valueU64 "free_bytes"
    cachedBytes := ← j.valueU64 "cached_bytes"
    bufferedBytes := ← j.valueU64 "buffered_bytes"
    slabBytes := ← j.valueU64 "slab_bytes"
    swapUsedBytes := ← j.valueU64 "swap_used_bytes"
    swapFreeBytes := ← j.valueU64 "swap_free_bytes"
    pageFaultsMinor := ← j.valueU64 "page_faults_minor"
    pageFaultsMajor := ← j.valueU64 "page_faults_major"
    psiSomePctX100 := ← j.valueU32 "psi_some_pct_x100"
    psiFullPctX100 := ← j.valueU32 "psi_full_pct_x100"
    oomKillsTotal := ← j.valueU64 "oom_kills_total" }

def fillCore (c : Json F) : Option CpuStats := do
  return {
    cpuId := ← c.valueU32 "cpu_id"
    userNs := ← c.valueU64 "user_ns"
    systemNs := ← c.valueU64 "system_ns"
    iowaitNs := ← c.valueU64 "iowait_ns"
    irqNs := ← c.valueU64 "irq_ns"
    softirqNs := ← c.valueU64 "softirq_ns"
    idleNs := ← c.valueU64 "idle_ns"
    ctxSwitches := ← c.valueU64 "ctx_switches" }

def fillCpu (j : Json F) : Option (CpuSnapshot F) := do
  let load ← j.atKey "load"
  let cores ← j.atKey "cores"
  return {
    load1 := ← load.valueDouble "load_1"
    load5 := ← load.valueDouble "load_5"
    load15 := ← load.valueDouble "load_15"
    cores := ← (← cores.elements).mapM fillCore }

/-- The bytes of an array up to the first 0. -/
def commBytes : List (Json F) → Option (List UInt8)
  | [] => some []
  | b :: bytes => do
    let c ← b.getInt.map UInt8.ofInt
    if c = 0 then return []
    return c :: (← commBytes bytes)

def comm (p : Json F) : Option (List UInt8) :=
  match p.atKey "comm" with
  | some (.array bytes) => commBytes bytes
  | _ => p.valueString "comm"

/-- A text is set through its C string. -/
def fillProcess (p : Json F) : Option ProcessStats := do
  return {
    pid := ← p.valueU32 "pid"
    ppid := ← p.valueU32 "ppid"
    uid := ← p.valueU32 "uid"
    threadCount := ← p.valueU32 "thread_count"
    cpuUserNs := ← p.valueU64 "cpu_user_ns"
    cpuSystemNs := ← p.valueU64 "cpu_system_ns"
    memRssBytes := ← p.valueU64 "mem_rss_bytes"
    memVmsBytes := ← p.valueU64 "mem_vms_bytes"
    voluntaryCtxSw := ← p.valueU64 "voluntary_ctx_sw"
    involuntaryCtxSw := ← p.valueU64 "involuntary_ctx_sw"
    readBytes := ← p.valueU64 "read_bytes"
    writeBytes := ← p.valueU64 "write_bytes"
    pageFaultsMinor := ← p.valueU64 "page_faults_minor"
    pageFaultsMajor := ← p.valueU64 "page_faults_major"
    startTimeNs := ← p.valueU64 "start_time_ns"
    openFds := ← p.valueU32 "open_fds"
    comm := cStr (← comm p) }

def fillProcesses (arr : Json F) : Option (List ProcessStats) := do
  (← arr.elements).mapM fillProcess

def fillIface (src : Json F) : Option NetIfaceStats := do
  return {
    ifaceIdx := ← src.valueU32 "iface_idx"
    name := cStr (← src.valueString "name")
    rxBytes := ← src.valueU64 "rx_bytes"
    txBytes := ← src.valueU64 "tx_bytes"
    rxPackets := ← src.valueU64 "rx_packets"
    txPackets := ← src.valueU64 "tx_packets"
    rxDrops := ← src.valueU64 "rx_drops"
    txDrops := ← src.valueU64 "tx_drops"
    rxErrors := ← src.valueU64 "rx_errors"
    txErrors := ← src.valueU64 "tx_errors" }

def fillTcp (tcp : Json F) : Option TcpStateSnapshot := do
  return {
    established := ← tcp.valueU64 "established"
    synSent := ← tcp.valueU64 "syn_sent"
    synRecv := ← tcp.valueU64 "syn_recv"
    finWait1 := ← tcp.valueU64 "fin_wait1"
    finWait2 := ← tcp.valueU64 "fin_wait2"
    timeWait := ← tcp.valueU64 "time_wait"
    closeWait := ← tcp.valueU64 "close_wait"
    listen := ← tcp.valueU64 "listen"
    listenOverflows := ← tcp.valueU64 "listen_overflows"
    retransmits := ← tcp.valueU64 "retransmits"
    resetsIn := ← tcp.valueU64 "resets_in"
    resetsOut := ← tcp.valueU64 "resets_out" }

def fillNetwork (j : Json F) : Option NetworkSnapshot := do
  let ifaces ← (← (← j.atKey "ifaces").elements).mapM fillIface
  let tcp ← fillTcp (← j.atKey "tcp")
  return { ifaces, tcp }

def fillSecurity (j : Json F) : Option SecuritySnapshot := do
  return {
    ptrace := ← j.valueU64 "ptrace"
    memfdCreate := ← j.valueU64 "memfd_create"
    prctl := ← j.valueU64 "prctl"
    setuid := ← j.valueU64 "setuid"
    execAnomaly := ← j.valueU64 "exec_anomaly"
    capabilityUse := ← j.valueU64 "capability_use" }

def getBucket (buckets : List (Json F)) (i : Nat) : Option UInt64 :=
  match buckets[i]? with
  | some bucket => bucket.getNumberUnsigned
  | none => some 0

def fillScheduler (j : Json F) : Option SchedulerSnapshot := do
  let hist ← j.atKey "histogram"
  let buckets ← (← hist.atKey "buckets").elements
  return {
    histogram := {
      lt10Us := ← getBucket buckets 0
      lt100Us := ← getBucket buckets 1
      lt1Ms := ← getBucket buckets 2
      lt10Ms := ← getBucket buckets 3
      lt100Ms := ← getBucket buckets 4
      lt1S := ← getBucket buckets 5
      lt10S := ← getBucket buckets 6
      ge10S := ← getBucket buckets 7 }
    totalCount := ← hist.valueU64 "total_count"
    totalLatNs := ← hist.valueU64 "total_latency_ns"
    maxLatNs := ← hist.valueU64 "max_latency_ns"
    p50Ns := ← j.valueU64 "p50_ns"
    p95Ns := ← j.valueU64 "p95_ns"
    p99Ns := ← j.valueU64 "p99_ns" }

/-- The documents of the daemon by their path, none when one is not fetched or is no JSON. -/
abbrev Daemon (F : Type) := String → Option (Json F)

def getMetrics (fetchJson : Daemon F) : Option (MetricSnapshot F) := do
  let j ← fetchJson "/metrics"
  return {
    timestampNs := ← j.valueU64 "timestamp_ns"
    memory := ← fillMemory (← j.atKey "memory")
    cpu := ← fillCpu (.object [("load", ← j.atKey "load"), ("cores", ← j.atKey "cpu_cores")])
    processes := ← fillProcesses (← j.atKey "top_processes")
    network := ← fillNetwork (.object [("ifaces", ← j.atKey "net_ifaces"), ("tcp", ← j.atKey "tcp")])
    security := ← fillSecurity (← j.atKey "security")
    scheduler := ← fillScheduler (← j.atKey "sched") }

def getMemory (fetchJson : Daemon F) : Option MemorySnapshot := do
  fillMemory (← fetchJson "/metrics/memory")

def getCpu (fetchJson : Daemon F) : Option (CpuSnapshot F) := do
  fillCpu (← fetchJson "/metrics/cpu")

def processPath (limit : UInt32) : String :=
  if limit > 0 then "/metrics/process?limit=" ++ toString limit.toNat else "/metrics/process"

def getProcesses (fetchJson : Daemon F) (limit : UInt32) : Option (List ProcessStats) := do
  fillProcesses (← fetchJson (processPath limit))

def getNetwork (fetchJson : Daemon F) : Option NetworkSnapshot := do
  fillNetwork (← fetchJson "/metrics/network")

def getSecurity (fetchJson : Daemon F) : Option SecuritySnapshot := do
  fillSecurity (← fetchJson "/metrics/security")

def getScheduler (fetchJson : Daemon F) : Option SchedulerSnapshot := do
  fillScheduler (← fetchJson "/metrics/scheduler")

end TestRunner.AglHealth
