import TestRunner.Run

/-! The connection of the client: a flag and an owned pointer, which every call relies on being in
step. A call is the list of the statements of its body. -/
namespace TestRunner.Client

/-- The types of a `kj::Exception`. -/
inductive ExceptionType where
  | failed | overloaded | disconnected | unimplemented
  deriving DecidableEq

inductive Interface where
  | input | recorder | screenshooter | aglHealth
  deriving DecidableEq

inductive Method where
  | sendMouseMove | sendMouseClick | sendKeyPress | sendKeyPressByKeySym | sendKeyPressByName
  | sendSingleTouch | sendMultiTouch | sendPassThrough
  | getSnapshot | createCustomRecorder | setDevicesToRecord | listDevices | startCustomRecording
  | stopCustomRecording | checkRecorderActive
  | takeScreenshot
  | getMetrics | getMemory | getCpu | getProcesses | getNetwork | getSecurity | getScheduler
  | setDaemonUrl
  | waitForTasks
  deriving DecidableEq

inductive Statement where
  -- `KJ_REQUIRE(isConnected, …)`
  | require
  | getMain (interface : Interface)
  -- the request is made and filled
  | request
  | send
  | getTimer
  | getWaitScope
  -- the wait of `waitWithTimeout` with its handler
  | wait
  -- the wait of `WaitForTasks`, over at once: no task is ever added
  | onEmpty
  deriving DecidableEq

def waitWithTimeout : List Statement := [.getTimer, .getWaitScope, .wait]

/-- The body that the calls share. -/
def remote (interface : Interface) : List Statement :=
  [.require, .getMain interface, .request, .send] ++ waitWithTimeout

def Method.body : Method → List Statement
  | .sendMouseMove | .sendMouseClick | .sendKeyPress | .sendKeyPressByKeySym | .sendKeyPressByName
  | .sendSingleTouch | .sendMultiTouch | .sendPassThrough => remote .input
  | .getSnapshot | .createCustomRecorder | .setDevicesToRecord | .listDevices
  | .startCustomRecording | .stopCustomRecording | .checkRecorderActive => remote .recorder
  | .takeScreenshot => remote .screenshooter
  | .getMetrics | .getMemory | .getCpu | .getProcesses | .getNetwork | .getSecurity | .getScheduler
  | .setDaemonUrl => remote .aglHealth
  | .waitForTasks => [.getWaitScope, .onEmpty]

/-- How a wait ends. -/
inductive Wait where
  | response
  | timeout
  | exception (type : ExceptionType)
  deriving DecidableEq

def Wait.thrown : Wait → Option ExceptionType
  | .response => none
  | .timeout => some .failed
  | .exception type => some type

/-- What happens around a call: whether its request can be made, and how its wait ends. -/
structure Surroundings where
  request : Option ExceptionType
  wait : Wait
  deriving DecidableEq

structure RPCClient (C : Type) where
  isConnected : Bool
  conn : Option C
  deriving DecidableEq

/-- What can be seen of a call: a use of `conn`, of the network, and a lost connection. -/
inductive Effect where
  | deref
  | nullDeref
  | network
  | disconnected
  deriving DecidableEq

inductive Ending where
  | returned
  | threw (type : ExceptionType)
  | crashed
  deriving DecidableEq

variable {C : Type}

/-- The client after a statement, its effects, and how the call ends if it ends there. -/
def Statement.exec (around : Surroundings) (client : RPCClient C) :
    Statement → RPCClient C × List Effect × Option Ending
  | .require => (client, [], if client.isConnected then none else some (.threw .failed))
  | .getMain _ =>
    match client.conn with
    | some _ => (client, [.deref, .network], none)
    | none => (client, [.nullDeref], some .crashed)
  | .request => (client, [], around.request.map .threw)
  | .send => (client, [.network], none)
  | .getTimer | .getWaitScope =>
    match client.conn with
    | some _ => (client, [.deref], none)
    | none => (client, [.nullDeref], some .crashed)
  | .wait =>
    match around.wait.thrown with
    | none => (client, [], none)
    | some .disconnected => (⟨false, none⟩, [.disconnected], some (.threw .disconnected))
    | some type => (client, [], some (.threw type))
  | .onEmpty => (client, [], none)

structure Outcome (C : Type) where
  client : RPCClient C
  effects : List Effect
  ending : Ending
  deriving DecidableEq

def exec (around : Surroundings) (client : RPCClient C) : List Statement → Outcome C
  | [] => ⟨client, [], .returned⟩
  | statement :: body =>
    match statement.exec around client with
    | (client, effects, some ending) => ⟨client, effects, ending⟩
    | (client, effects, none) =>
      let rest := exec around client body
      { rest with effects := effects ++ rest.effects }

/-- `connect` with the connection that is made, none when making it throws. -/
inductive Operation (C : Type) where
  | connect (made : Option C)
  | call (method : Method) (around : Surroundings)

def RPCClient.connect (client : RPCClient C) : Option C → Outcome C
  | some made => ⟨⟨true, some made⟩, [.network], .returned⟩
  | none => ⟨client, [.network], .threw .failed⟩

def Operation.outcome (client : RPCClient C) : Operation C → Outcome C
  | .connect made => client.connect made
  | .call method around => exec around client method.body

/-- `lost` is history: the connection was lost and none was made since. No step reads it. -/
structure ClientRun (C : Type) where
  client : RPCClient C
  ending : Ending
  lost : Bool

def fresh : ClientRun C := ⟨⟨false, none⟩, .returned, false⟩

def Operation.loses (outcome : Outcome C) (lost : Bool) : Operation C → Bool
  | .connect (some _) => false
  | _ => lost || outcome.effects.contains .disconnected

/-- One operation; a program that has crashed does no other. -/
def step (s : ClientRun C) (op : Operation C) : Option (ClientRun C) :=
  if s.ending = .crashed then none
  else
    let outcome := op.outcome s.client
    some ⟨outcome.client, outcome.ending, op.loses outcome s.lost⟩

/-- What an operation is to keep. -/
structure Honoured (s : ClientRun C) (op : Operation C) : Prop where
  matched : s.client.isConnected = s.client.conn.isSome
  held : .nullDeref ∉ (op.outcome s.client).effects
  silent : s.lost = true → ∀ method around, op = .call method around →
    (op.outcome s.client).effects = [] ∧ ∃ type, (op.outcome s.client).ending = .threw type
  refused : op = .connect none → (op.outcome s.client).client = s.client
  timedOut : ∀ method around, op = .call method around → around.wait = .timeout →
    (op.outcome s.client).client = s.client

/-- `WaitForTasks` is called on a connected client. -/
def WaitsConnected (s : ClientRun C) (op : Operation C) : Prop :=
  ∀ around, op = .call .waitForTasks around → s.client.isConnected = true

/-- The flag and the pointer agree, and both say so when the connection was lost. -/
structure InStep (s : ClientRun C) : Prop where
  matched : s.client.isConnected = s.client.conn.isSome
  lost : s.lost = true → s.client.isConnected = false

theorem body_remote {method : Method} (other : method ≠ .waitForTasks) :
    ∃ interface, method.body = remote interface := by
  cases method with
  | waitForTasks => exact absurd rfl other
  | _ => exact ⟨_, rfl⟩

/-- A call without a connection throws at once. -/
theorem exec_unconnected (around : Surroundings) {client : RPCClient C}
    (flag : client.isConnected = false) (interface : Interface) :
    exec around client (remote interface) = ⟨client, [], .threw .failed⟩ := by
  simp [remote, exec, Statement.exec, flag]

/-- What a call may do to a client that holds a connection: keep it, or give it up when it is
lost. -/
structure Uses (around : Surroundings) (made : C) (outcome : Outcome C) : Prop where
  held : .nullDeref ∉ outcome.effects
  alive : outcome.ending ≠ .crashed
  client : .disconnected ∉ outcome.effects ∧ outcome.client = ⟨true, some made⟩ ∨
    .disconnected ∈ outcome.effects ∧ outcome.client = ⟨false, none⟩ ∧
      around.wait = .exception .disconnected

theorem uses_remote (around : Surroundings) (made : C) (interface : Interface) :
    Uses around made (exec around ⟨true, some made⟩ (remote interface)) := by
  obtain ⟨request, wait⟩ := around
  cases request with
  | some type => constructor <;> simp [remote, exec, Statement.exec]
  | none =>
    cases wait with
    | response | timeout =>
      constructor <;> simp [remote, waitWithTimeout, exec, Statement.exec, Wait.thrown]
    | exception type =>
      cases type <;> constructor <;>
        simp [remote, waitWithTimeout, exec, Statement.exec, Wait.thrown]

theorem uses_waitForTasks (around : Surroundings) (made : C) :
    Uses around made (exec around ⟨true, some made⟩ Method.waitForTasks.body) := by
  constructor <;> simp [Method.body, exec, Statement.exec]

theorem uses_call (around : Surroundings) (made : C) (method : Method) :
    Uses around made (exec around ⟨true, some made⟩ method.body) := by
  by_cases wait : method = .waitForTasks
  · rw [wait]
    exact uses_waitForTasks around made
  · obtain ⟨interface, body⟩ := body_remote wait
    rw [body]
    exact uses_remote around made interface

/-- Either there is no connection, or the client is this one. -/
theorem InStep.cases {s : ClientRun C} (h : InStep s) :
    s.client.isConnected = false ∧ s.client.conn = none ∨
      ∃ made, s.client = ⟨true, some made⟩ ∧ s.lost = false := by
  obtain ⟨⟨flag, conn⟩, ending, lost⟩ := s
  obtain ⟨matched, gone⟩ := h
  cases conn with
  | none => exact .inl ⟨matched, rfl⟩
  | some made =>
    cases matched
    exact .inr ⟨made, rfl, by simpa using gone⟩

/-- A call throws at once or uses the connection that is held. -/
theorem call_cases {s : ClientRun C} {method : Method} {around : Surroundings} (h : InStep s)
    (waits : WaitsConnected s (.call method around)) :
    s.client.isConnected = false ∧
        exec around s.client method.body = ⟨s.client, [], .threw .failed⟩ ∨
      ∃ made, s.client = ⟨true, some made⟩ ∧ s.lost = false ∧
        Uses around made (exec around s.client method.body) := by
  rcases h.cases with ⟨flag, -⟩ | ⟨made, client, lost⟩
  · have other : method ≠ .waitForTasks := by
      rintro rfl
      exact absurd ((waits around rfl).symm.trans flag) Bool.noConfusion
    obtain ⟨interface, body⟩ := body_remote other
    rw [body]
    exact .inl ⟨flag, exec_unconnected around flag interface⟩
  · refine .inr ⟨made, client, lost, ?_⟩
    rw [client]
    exact uses_call around made method

theorem honoured_connect {s : ClientRun C} (h : InStep s) (made : Option C) :
    Honoured s (.connect made) := by
  constructor
  · exact h.matched
  · cases made <;> simp [Operation.outcome, RPCClient.connect]
  · intro _ _ _ same
    cases same
  · intro same
    cases same
    rfl
  · intro _ _ same
    cases same

theorem honoured_call {s : ClientRun C} {method : Method} {around : Surroundings} (h : InStep s)
    (waits : WaitsConnected s (.call method around)) : Honoured s (.call method around) := by
  constructor
  · exact h.matched
  · rcases call_cases h waits with ⟨-, outcome⟩ | ⟨made, -, -, uses⟩
    · simp [Operation.outcome, outcome]
    · exact uses.held
  · intro lost _ _ _
    rcases call_cases h waits with ⟨-, outcome⟩ | ⟨made, -, kept, -⟩
    · simp [Operation.outcome, outcome]
    · exact absurd (lost.symm.trans kept) Bool.noConfusion
  · intro same
    cases same
  · intro _ _ same timeout
    cases same
    rcases call_cases h waits with ⟨-, outcome⟩ | ⟨made, client, -, uses⟩
    · rw [Operation.outcome, outcome]
    · rcases uses.client with ⟨-, kept⟩ | ⟨-, -, ended⟩
      · exact kept.trans client.symm
      · exact absurd (timeout.symm.trans ended) (by simp)

theorem honoured_iff {s : ClientRun C} {op : Operation C} (h : InStep s) :
    Honoured s op ↔ WaitsConnected s op := by
  constructor
  · rintro honoured around rfl
    rcases h.cases with ⟨flag, none⟩ | ⟨made, client, -⟩
    · have held := honoured.held
      simp [Operation.outcome, Method.body, exec, Statement.exec, none] at held
    · rw [client]
  · intro waits
    cases op with
    | connect made => exact honoured_connect h made
    | call method around => exact honoured_call h waits

theorem inStep_step {s t : ClientRun C} {op : Operation C} (h : InStep s)
    (waits : WaitsConnected s op) (stepped : step s op = some t) : InStep t := by
  unfold step at stepped
  split at stepped
  · cases stepped
  · cases Option.some.inj stepped
    cases op with
    | connect made =>
      cases made with
      | some made => exact ⟨rfl, fun lost => Bool.noConfusion lost⟩
      | none =>
        refine ⟨h.matched, fun lost => h.lost ?_⟩
        simpa [Operation.loses, Operation.outcome, RPCClient.connect] using lost
    | call method around =>
      simp only [Operation.outcome, Operation.loses]
      rcases call_cases h waits with ⟨flag, outcome⟩ | ⟨made, client, kept, uses⟩
      · rw [outcome]
        exact ⟨h.matched, fun _ => flag⟩
      · rcases uses.client with ⟨none, same⟩ | ⟨-, gone, -⟩
        · exact ⟨by rw [same]; rfl, fun lost => by simp [kept, none] at lost⟩
        · exact ⟨by rw [gone]; rfl, fun _ => by rw [gone]⟩

/-- Over every sequence of operations the flag says whether a connection is held, none is used that
is not, a call after a lost connection throws at once, and what fails otherwise changes nothing,
if and only if `WaitForTasks` is called on a connected client only. -/
theorem connection_kept_iff (ops : List (Operation C)) :
    Along step Honoured fresh ops ∧
        (∀ s, run step fresh ops = some s → s.client.isConnected = s.client.conn.isSome) ↔
      Along step WaitsConnected fresh ops := by
  have start : InStep (fresh : ClientRun C) := ⟨rfl, fun lost => Bool.noConfusion lost⟩
  have same : Along step Honoured (fresh : ClientRun C) ops ↔ Along step WaitsConnected fresh ops :=
    along_congr start (fun s op h => honoured_iff h)
      fun s op t h honoured stepped => inStep_step h ((honoured_iff h).mp honoured) stepped
  rw [same, and_iff_left_iff_imp]
  intro waits s reached
  have last : InStep s := Reaches.invariant ⟨ops, reached, waits⟩ start
    fun s op t waits stepped h => inStep_step h waits stepped
  exact last.matched

/-- On a client that was never connected, `WaitForTasks` uses the null pointer. -/
theorem wait_unconnected : ∃ s, run step (fresh : ClientRun Unit)
      [.call .waitForTasks ⟨none, .response⟩] = some s ∧ s.ending = .crashed ∧
    ((Operation.call .waitForTasks ⟨none, .response⟩).outcome (fresh : ClientRun Unit).client).effects =
      [.nullDeref] ∧
    ¬ Along step Honoured (fresh : ClientRun Unit) [.call .waitForTasks ⟨none, .response⟩] := by
  refine ⟨_, rfl, rfl, rfl, fun along => ?_⟩
  exact along.1.held (by decide)

end TestRunner.Client
