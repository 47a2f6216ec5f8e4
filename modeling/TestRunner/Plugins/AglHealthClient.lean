import TestRunner.Plugins.AglHealth

/-! The health metrics on the side of the client: the messages are decoded into plain structures. -/
namespace TestRunner.AglHealth

structure AglMemorySnapshot where
  totalBytes : UInt64 := 0
  freeBytes : UInt64 := 0
  cachedBytes : UInt64 := 0
  bufferedBytes : UInt64 := 0
  slabBytes : UInt64 := 0
  swapUsedBytes : UInt64 := 0
  swapFreeBytes : UInt64 := 0
  pageFaultsMinor : UInt64 := 0
  pageFaultsMajor : UInt64 := 0
  psiSomePctX100 : UInt32 := 0
  psiFullPctX100 : UInt32 := 0
  oomKillsTotal : UInt64 := 0

structure AglCoreStats where
  cpuId : UInt32 := 0
  userNs : UInt64 := 0
  systemNs : UInt64 := 0
  iowaitNs : UInt64 := 0
  irqNs : UInt64 := 0
  softirqNs : UInt64 := 0
  idleNs : UInt64 := 0
  ctxSwitches : UInt64 := 0

structure AglCpuSnapshot (F : Type) where
  load1 : F
  load5 : F
  load15 : F
  cores : List AglCoreStats

structure AglProcessStats where
  pid : UInt32 := 0
  ppid : UInt32 := 0
  uid : UInt32 := 0
  threadCount : UInt32 := 0
  cpuUserNs : UInt64 := 0
  cpuSystemNs : UInt64 := 0
  memRssBytes : UInt64 := 0
  memVmsBytes : UInt64 := 0
  voluntaryCtxSw : UInt64 := 0
  involuntaryCtxSw : UInt64 := 0
  readBytes : UInt64 := 0
  writeBytes : UInt64 := 0
  pageFaultsMinor : UInt64 := 0
  pageFaultsMajor : UInt64 := 0
  startTimeNs : UInt64 := 0
  openFds : UInt32 := 0
  comm : List UInt8 := []

structure AglNetIfaceStats where
  ifaceIdx : UInt32 := 0
  name : List UInt8 := []
  rxBytes : UInt64 := 0
  txBytes : UInt64 := 0
  rxPackets : UInt64 := 0
  txPackets : UInt64 := 0
  rxDrops : UInt64 := 0
  txDrops : UInt64 := 0
  rxErrors : UInt64 := 0
  txErrors : UInt64 := 0

structure AglTcpStateSnapshot where
  established : UInt64 := 0
  synSent : UInt64 := 0
  synRecv : UInt64 := 0
  finWait1 : UInt64 := 0
  finWait2 : UInt64 := 0
  timeWait : UInt64 := 0
  closeWait : UInt64 := 0
  listen : UInt64 := 0
  listenOverflows : UInt64 := 0
  retransmits : UInt64 := 0
  resetsIn : UInt64 := 0
  resetsOut : UInt64 := 0

structure AglNetworkSnapshot where
  ifaces : List AglNetIfaceStats
  tcp : AglTcpStateSnapshot

structure AglSecuritySnapshot where
  ptrace : UInt64 := 0
  memfdCreate : UInt64 := 0
  prctl : UInt64 := 0
  setuid : UInt64 := 0
  execAnomaly : UInt64 := 0
  capabilityUse : UInt64 := 0

structure AglSchedBuckets where
  lt10us : UInt64 := 0
  lt100us : UInt64 := 0
  lt1ms : UInt64 := 0
  lt10ms : UInt64 := 0
  lt100ms : UInt64 := 0
  lt1s : UInt64 := 0
  lt10s : UInt64 := 0
  ge10s : UInt64 := 0

structure AglSchedulerSnapshot where
  histogram : AglSchedBuckets := {}
  totalCount : UInt64 := 0
  totalLatNs : UInt64 := 0
  maxLatNs : UInt64 := 0
  p50Ns : UInt64 := 0
  p95Ns : UInt64 := 0
  p99Ns : UInt64 := 0

structure AglMetricSnapshot (F : Type) where
  timestampNs : UInt64
  memory : AglMemorySnapshot
  cpu : AglCpuSnapshot F
  processes : List AglProcessStats
  network : AglNetworkSnapshot
  security : AglSecuritySnapshot
  scheduler : AglSchedulerSnapshot

variable {F : Type} [Doubles F]

def decodeMemory (r : MemorySnapshot) : AglMemorySnapshot where
  totalBytes := r.totalBytes
  freeBytes := r.freeBytes
  cachedBytes := r.cachedBytes
  bufferedBytes := r.bufferedBytes
  slabBytes := r.slabBytes
  swapUsedBytes := r.swapUsedBytes
  swapFreeBytes := r.swapFreeBytes
  pageFaultsMinor := r.pageFaultsMinor
  pageFaultsMajor := r.pageFaultsMajor
  psiSomePctX100 := r.psiSomePctX100
  psiFullPctX100 := r.psiFullPctX100
  oomKillsTotal := r.oomKillsTotal

def decodeCore (core : CpuStats) : AglCoreStats where
  cpuId := core.cpuId
  userNs := core.userNs
  systemNs := core.systemNs
  iowaitNs := core.iowaitNs
  irqNs := core.irqNs
  softirqNs := core.softirqNs
  idleNs := core.idleNs
  ctxSwitches := core.ctxSwitches

def decodeCpu {F : Type} (r : CpuSnapshot F) : AglCpuSnapshot F where
  load1 := r.load1
  load5 := r.load5
  load15 := r.load15
  cores := r.cores.map decodeCore

/-- A text is taken through its C string. -/
def decodeProcess (p : ProcessStats) : AglProcessStats where
  pid := p.pid
  ppid := p.ppid
  uid := p.uid
  threadCount := p.threadCount
  cpuUserNs := p.cpuUserNs
  cpuSystemNs := p.cpuSystemNs
  memRssBytes := p.memRssBytes
  memVmsBytes := p.memVmsBytes
  voluntaryCtxSw := p.voluntaryCtxSw
  involuntaryCtxSw := p.involuntaryCtxSw
  readBytes := p.readBytes
  writeBytes := p.writeBytes
  pageFaultsMinor := p.pageFaultsMinor
  pageFaultsMajor := p.pageFaultsMajor
  startTimeNs := p.startTimeNs
  openFds := p.openFds
  comm := cStr p.comm

def decodeProcesses (list : List ProcessStats) : List AglProcessStats := list.map decodeProcess

def decodeIface (iface : NetIfaceStats) : AglNetIfaceStats where
  ifaceIdx := iface.ifaceIdx
  name := cStr iface.name
  rxBytes := iface.rxBytes
  txBytes := iface.txBytes
  rxPackets := iface.rxPackets
  txPackets := iface.txPackets
  rxDrops := iface.rxDrops
  txDrops := iface.txDrops
  rxErrors := iface.rxErrors
  txErrors := iface.txErrors

def decodeTcp (tcp : TcpStateSnapshot) : AglTcpStateSnapshot where
  established := tcp.established
  synSent := tcp.synSent
  synRecv := tcp.synRecv
  finWait1 := tcp.finWait1
  finWait2 := tcp.finWait2
  timeWait := tcp.timeWait
  closeWait := tcp.closeWait
  listen := tcp.listen
  listenOverflows := tcp.listenOverflows
  retransmits := tcp.retransmits
  resetsIn := tcp.resetsIn
  resetsOut := tcp.resetsOut

def decodeNetwork (r : NetworkSnapshot) : AglNetworkSnapshot where
  ifaces := r.ifaces.map decodeIface
  tcp := decodeTcp r.tcp

def decodeSecurity (r : SecuritySnapshot) : AglSecuritySnapshot where
  ptrace := r.ptrace
  memfdCreate := r.memfdCreate
  prctl := r.prctl
  setuid := r.setuid
  execAnomaly := r.execAnomaly
  capabilityUse := r.capabilityUse

def decodeScheduler (r : SchedulerSnapshot) : AglSchedulerSnapshot where
  histogram := {
    lt10us := r.histogram.lt10Us
    lt100us := r.histogram.lt100Us
    lt1ms := r.histogram.lt1Ms
    lt10ms := r.histogram.lt10Ms
    lt100ms := r.histogram.lt100Ms
    lt1s := r.histogram.lt1S
    lt10s := r.histogram.lt10S
    ge10s := r.histogram.ge10S }
  totalCount := r.totalCount
  totalLatNs := r.totalLatNs
  maxLatNs := r.maxLatNs
  p50Ns := r.p50Ns
  p95Ns := r.p95Ns
  p99Ns := r.p99Ns

/-- The client with its server. `arrives` says that the response fits in a message and comes in
time. -/
structure PluginAglHealthClient (F : Type) where
  isConnected : Bool
  daemon : Daemon F
  arrives : Bool

/-- What a call returns, none when it throws. -/
def PluginAglHealthClient.response {A : Type} (client : PluginAglHealthClient F)
    (results : Option A) : Option A :=
  if client.isConnected && client.arrives then results else none

namespace PluginAglHealthClient

variable (client : PluginAglHealthClient F)

def getMetrics : Option (AglMetricSnapshot F) := do
  let snap ← client.response (AglHealth.getMetrics client.daemon)
  return {
    timestampNs := snap.timestampNs
    memory := decodeMemory snap.memory
    cpu := decodeCpu snap.cpu
    processes := decodeProcesses snap.processes
    network := decodeNetwork snap.network
    security := decodeSecurity snap.security
    scheduler := decodeScheduler snap.scheduler }

def getMemory : Option AglMemorySnapshot := do
  return decodeMemory (← client.response (AglHealth.getMemory client.daemon))

def getCpu : Option (AglCpuSnapshot F) := do
  return decodeCpu (← client.response (AglHealth.getCpu client.daemon))

def getProcesses (limit : UInt32) : Option (List AglProcessStats) := do
  return decodeProcesses (← client.response (AglHealth.getProcesses client.daemon limit))

def getNetwork : Option AglNetworkSnapshot := do
  return decodeNetwork (← client.response (AglHealth.getNetwork client.daemon))

def getSecurity : Option AglSecuritySnapshot := do
  return decodeSecurity (← client.response (AglHealth.getSecurity client.daemon))

def getScheduler : Option AglSchedulerSnapshot := do
  return decodeScheduler (← client.response (AglHealth.getScheduler client.daemon))

end PluginAglHealthClient

end TestRunner.AglHealth
